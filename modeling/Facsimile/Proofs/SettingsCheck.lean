import Facsimile.Proofs.DryRun
import Facsimile.Proofs.Refusal

/-!
# Checked settings

A command that checks the settings and one that generates validate them alike, since the directory
for the files has no part in it.  So what the check refuses ends each generation at once, in the
same words, and behind settings that it accepts only the model, the pass or the disk can fail.  The
messages of these start otherwise than those about settings (`starts_apart`), and so
`check_agrees` can say it of what a user gets to see.
-/

namespace Facsimile

/-- A command has failed, with a message as the last thing that it says. -/
def Report.FailsWith (r : Report) (message : String) : Prop :=
  r.code = 1 ∧ r.messages.getLast? = some message

theorem Report.FailsWith.after {r : Report} {message : String} (h : r.FailsWith message)
    (lines : List String) : (r.after lines).FailsWith message := by
  obtain ⟨hcode, hlast⟩ := h
  refine ⟨hcode, ?_⟩
  unfold Report.after
  rw [List.getLast?_append, hlast, Option.some_or]

theorem Report.failed_failsWith (message : String) : (failed message).FailsWith message :=
  ⟨rfl, rfl⟩

namespace Command

/-! ## How messages start -/

def Starts (start message : String) : Prop := ∃ rest, message = start ++ rest

theorem starts_append (start rest : String) : Starts start (start ++ rest) := ⟨rest, rfl⟩

theorem Starts.append {start message : String} (h : Starts start message) (rest : String) :
    Starts start (message ++ rest) := by
  obtain ⟨middle, rfl⟩ := h
  exact ⟨middle ++ rest, String.append_assoc⟩

/-- How messages about settings start. -/
def setupStarts : List String :=
  ["failed to read ", "failed to parse ", "invalid annotation config `", "escape template `"]

/-- How messages about a model, a pass or a file start, but for that about a keyword. -/
def laterStarts : List String := ["Failed to ", "`", "source units `", "failed to write "]

theorem starts_apart : ∀ p ∈ setupStarts, ∀ q ∈ laterStarts,
    ¬p.toList <+: q.toList ∧ ¬q.toList <+: p.toList := by
  decide +kernel

theorem ne_of_starts {a b p q : String} (ha : Starts p a) (hb : Starts q b)
    (h : ¬p.toList <+: q.toList ∧ ¬q.toList <+: p.toList) : a ≠ b := by
  obtain ⟨x, rfl⟩ := ha
  obtain ⟨y, rfl⟩ := hb
  intro heq
  have hlist : p.toList ++ x.toList = q.toList ++ y.toList := by
    rw [← String.toList_append, heq, String.toList_append]
  rcases List.prefix_or_prefix_of_prefix (List.prefix_append p.toList x.toList)
      (hlist ▸ List.prefix_append q.toList y.toList) with hpq | hqp
  · exact h.1 hpq
  · exact h.2 hqp

theorem SetupError.starts (e : SetupError) : ∃ p ∈ setupStarts, Starts p e.message := by
  cases e with
  | load e =>
    cases e with
    | read path cause =>
      exact ⟨"failed to read ", by decide, ((starts_append _ _).append _).append _⟩
    | parse path => exact ⟨"failed to parse ", by decide, starts_append _ _⟩
  | config e =>
    cases e with
    | malformedPath text =>
      exact ⟨"invalid annotation config `", by decide, (starts_append _ _).append _⟩
    | missingPlaceholder template =>
      exact ⟨"escape template `", by decide, (starts_append _ _).append _⟩

theorem getLast?_append_text {text : String} {c : Char} (h : text.toList.getLast? = some c)
    (before : String) : (before ++ text).toList.getLast? = some c := by
  rw [String.toList_append, List.getLast?_append, h, Option.some_or]

theorem rawPathKeyword_starts (keyword : String) :
    Starts "escape template `" (PassError.rawPathKeyword keyword).message :=
  (((starts_append _ _).append _).append _).append _

/-- The message about a keyword is none about settings, though it may start like one. -/
theorem rawPathKeyword_ne_setup (keyword : String) (e : SetupError) :
    (PassError.rawPathKeyword keyword).message ≠ e.message := by
  have hstart := rawPathKeyword_starts keyword
  cases e with
  | load e =>
    cases e with
    | read path cause =>
      exact ne_of_starts hstart (((starts_append "failed to read " _).append _).append _)
        (by decide +kernel)
    | parse path =>
      exact ne_of_starts hstart (starts_append "failed to parse " _) (by decide +kernel)
  | config e =>
    cases e with
    | malformedPath text =>
      exact ne_of_starts hstart ((starts_append "invalid annotation config `" _).append _)
        (by decide +kernel)
    | missingPlaceholder template =>
      -- both are about the template, and end differently
      intro heq
      have hraw : (PassError.rawPathKeyword keyword).message.toList.getLast? = some '\x60' :=
        getLast?_append_text (by decide +kernel) _
      have hmissing :
          (ConfigError.missingPlaceholder template).message.toList.getLast? = some 'r' :=
        getLast?_append_text (by decide +kernel) _
      rw [heq] at hraw
      exact absurd (hraw.symm.trans hmissing) (by decide)

/-! ## Failures behind valid settings -/

/-- What a generation with valid settings may end with. -/
inductive LaterFailure (g : Generator) : String → Prop
  | model (text : String) : LaterFailure g ("Failed to " ++ text)
  | pass {model : List Declaration} {e : PassError} : g.generate model = .error e →
    LaterFailure g e.message
  | write (e : WriteError) : LaterFailure g e.message

namespace LaterFailure

variable {g : Generator} {message : String}

/-- A failure that is not about a keyword starts like none about settings. -/
theorem starts (h : LaterFailure g message) :
    (∃ q ∈ laterStarts, Starts q message) ∨
      g.config.escapeTemplate = Naming.rawTemplate ∧
        ∃ keyword, message = (PassError.rawPathKeyword keyword).message := by
  cases h with
  | model text => exact Or.inl ⟨"Failed to ", by decide, starts_append _ _⟩
  | write e =>
    exact Or.inl ⟨"failed to write ", by decide, ((starts_append _ _).append _).append _⟩
  | pass hpass =>
    rename_i model e
    cases e with
    | rawPathKeyword keyword =>
      exact Or.inr ⟨(Generator.generate_eq_error_iff.mp hpass).1, keyword, rfl⟩
    | severalParents e =>
      exact Or.inl ⟨"`", by decide, (((starts_append _ _).append _).append _).append _⟩
    | collision c =>
      exact Or.inl ⟨"source units `", by decide,
        (((((starts_append _ _).append _).append _).append _).append _).append _⟩

theorem ne_setup (h : LaterFailure g message) (e : SetupError) : message ≠ e.message := by
  obtain ⟨p, hp, he⟩ := e.starts
  rcases h.starts with ⟨q, hq, hm⟩ | ⟨-, keyword, rfl⟩
  · exact (ne_of_starts he hm (starts_apart p hp q hq)).symm
  · exact rawPathKeyword_ne_setup keyword e

theorem rawTemplate_of_keyword {keyword : String}
    (h : LaterFailure g (PassError.rawPathKeyword keyword).message) :
    g.config.escapeTemplate = Naming.rawTemplate := by
  rcases h.starts with ⟨q, hq, hm⟩ | ⟨hraw, -⟩
  · exact absurd rfl (ne_of_starts (rawPathKeyword_starts keyword) hm
      (starts_apart _ (by decide) q hq))
  · exact hraw

end LaterFailure

/-! ## The stages behind the settings -/

section Stages

variable {t : Threshold} {w : World} {model : String} {config output : Option String}

theorem readModelText_failure {message : String}
    (h : ((readModelText model : StateM World _).run w).1 = .error message) :
    ∃ text, message = "Failed to " ++ text := by
  unfold readModelText at h
  split at h
  · have hread : (decodeText w.input).mapError (fun e => "Failed to read stdin: " ++ e.message) =
        .error message := h
    cases hdecode : decodeText w.input with
    | ok text =>
      rw [hdecode] at hread
      cases hread
    | error e =>
      rw [hdecode] at hread
      cases hread
      exact ⟨"read stdin: " ++ e.message, by rw [← String.append_assoc]; rfl⟩
  · have hread : ((w.disk.read model).bind decodeText).mapError
        (fun e => "Failed to read " ++ model ++ ": " ++ e.message) = .error message := h
    cases hdecode : (w.disk.read model).bind decodeText with
    | ok text =>
      rw [hdecode] at hread
      cases hread
    | error e =>
      rw [hdecode] at hread
      cases hread
      refine ⟨"read " ++ model ++ ": " ++ e.message, ?_⟩
      rw [← String.append_assoc, ← String.append_assoc, ← String.append_assoc]
      rfl

theorem loadModel_failure {message : String}
    (h : ((loadModel model : StateM World _).run w).1 = .error message) :
    ∃ text, message = "Failed to " ++ text := by
  have hload : (((readModelText model : StateM World _).run w).1.bind fun text =>
      (readModel text).mapError fun _ => modelUnreadable) = .error message := h
  cases hread : ((readModelText model : StateM World _).run w).1 with
  | error e =>
    rw [hread] at hload
    cases hload
    exact readModelText_failure hread
  | ok text =>
    rw [hread] at hload
    cases hmodel : readModel text with
    | ok declarations =>
      simp only [Except.bind, hmodel, Except.mapError] at hload
      cases hload
    | error e =>
      simp only [Except.bind, hmodel, Except.mapError] at hload
      cases hload
      exact ⟨"parse declaration model", rfl⟩

theorem showFiles_outcome (t : Threshold) (g : Generator) (declarations : List Declaration) :
    (showFiles t g declarations).code = 0 ∨
      ∃ message, (showFiles t g declarations).FailsWith message ∧ LaterFailure g message := by
  cases hpass : g.generate declarations with
  | ok files => exact Or.inl (showFiles_of_ok hpass).1
  | error e =>
    rw [(files_of_failed_pass (t := t) (w := ⟨.empty [], .empty⟩) hpass).1]
    exact Or.inr ⟨e.message, (Report.failed_failsWith _).after _, .pass hpass⟩

theorem writeFiles_outcome (t : Threshold) (g : Generator) (declarations : List Declaration)
    (w : World) :
    ((writeFiles t g declarations : StateM World _).run w).1.code = 0 ∨
      ∃ message, ((writeFiles t g declarations : StateM World _).run w).1.FailsWith message ∧
        LaterFailure g message := by
  cases hpass : g.generate declarations with
  | error e =>
    obtain ⟨hshow, hwrite⟩ := files_of_failed_pass (t := t) (w := w) hpass
    rw [hwrite, hshow]
    exact Or.inr ⟨e.message, (Report.failed_failsWith _).after _, .pass hpass⟩
  | ok files =>
    unfold writeFiles
    rw [StateT.run_bind, Generator.run_eq, hpass]
    cases hdeliver : (deliver (Sink.directory g.config.outputDir) files : StateM World _).run w with
    | mk d w' =>
      cases hfailure : d.failure with
      | none =>
        left
        simp only [hdeliver, Delivery.outcome, hfailure]
        rfl
      | some e =>
        right
        simp only [hdeliver, Delivery.outcome, hfailure]
        exact ⟨e.message, (Report.failed_failsWith _).after _, .write e⟩

theorem generate_outcome {g : Generator} (hg : settled w config output = .ok g)
    (t : Threshold) (model : String) (dryRun : Bool) :
    ((generate t model config output dryRun : StateM World _).run w).1.code = 0 ∨
      ∃ message,
        ((generate t model config output dryRun : StateM World _).run w).1.FailsWith message ∧
          LaterFailure g message := by
  cases hmodel : (loadModel model : StateM World _).run w with
  | mk loaded w' =>
    cases loaded with
    | error message =>
      rw [generate_of_unread hg hmodel]
      obtain ⟨text, rfl⟩ := loadModel_failure (congrArg Prod.fst hmodel)
      exact Or.inr ⟨_, Report.failed_failsWith _, .model text⟩
    | ok declarations =>
      obtain ⟨hdry, hreal⟩ := generate_of_read (t := t) hg hmodel
      cases dryRun with
      | true =>
        rw [hdry]
        refine (showFiles_outcome t g declarations).imp id ?_
        rintro ⟨message, hfails, hlater⟩
        exact ⟨message, hfails.after _, hlater⟩
      | false =>
        rw [hreal]
        refine (writeFiles_outcome t g declarations w').imp id ?_
        rintro ⟨message, hfails, hlater⟩
        exact ⟨message, hfails.after _, hlater⟩

end Stages

/-! ## The settings alone -/

section Settings

variable {w : World} {config : Option String}

theorem escapeTemplate_setOutput (output : Option String) (c : Config) :
    (setOutput output c).escapeTemplate = c.escapeTemplate := by
  cases output <;> rfl

/-- The directory for the files has no part in whether settings are valid. -/
theorem new_setOutput (output : Option String) (c : Config) :
    Generator.new (setOutput output c) =
      (Generator.new c).map fun g => { g with config := setOutput output g.config } := by
  have hresolver : Resolver.ofConfig (setOutput output c) = Resolver.ofConfig c := by
    cases output <;> rfl
  unfold Generator.new
  rw [escapeTemplate_setOutput, hresolver]
  split
  · cases Resolver.ofConfig c with
    | error e => rfl
    | ok r => rfl
  · rfl

theorem settled_output (w : World) (config output : Option String) :
    settled w config output =
      (settled w config none).map fun g => { g with config := setOutput output g.config } := by
  cases hload : ((loadConfig config : StateM World _).run w).1 with
  | error e =>
    rw [settled_of_load_error hload, settled_of_load_error hload]
    rfl
  | ok c =>
    have hnone : settled w config none = (Generator.new c).mapError ConfigError.message :=
      settled_of_load hload
    rw [settled_of_load hload, hnone, new_setOutput]
    cases Generator.new c with
    | error e => rfl
    | ok g => rfl

theorem check_of_not_settled {message : String} (h : settled w config none = .error message) :
    (check config : StateM World Report).run w = (.failed message, w) := by
  obtain ⟨e, hsetUp, rfl⟩ := setUp_of_not_settled h
  have hid : (setUp config id : StateM World _).run w = (.error e, w) := hsetUp
  unfold check
  rw [StateT.run_bind, hid]
  rfl

theorem check_of_settled {g : Generator} (h : settled w config none = .ok g) :
    (check config : StateM World Report).run w = (⟨0, summary g.config ++ "\n", []⟩, w) := by
  have hid : (setUp config id : StateM World _).run w = (.ok g, w) := (setUp_of_settled h).1
  unfold check
  rw [StateT.run_bind, hid]
  rfl

/-- What the check tells about the raw template. -/
def keywordNote : String :=
  "note: raw identifiers cannot be crate, self, super, Self; " ++
    "models producing them fail at generation"

def Noted (output : String) : Prop := ∃ above, output = above ++ "\n" ++ keywordNote ++ "\n"

theorem summary_noted_iff {c : Config} :
    Noted (summary c ++ "\n") ↔ c.escapeTemplate = Naming.rawTemplate := by
  have hraw : Naming.isRawTemplate c.escapeTemplate = true ↔
      c.escapeTemplate = Naming.rawTemplate := beq_iff_eq
  unfold summary
  rw [← hraw]
  constructor
  · intro h
    by_contra hno
    rw [if_neg hno] at h
    obtain ⟨above, heq⟩ := h
    have hbody := (String.append_left_inj "\n").mp heq
    have hlast := congrArg (fun s => s.toList.getLast?) hbody
    simp only [String.append_empty] at hlast
    rw [getLast?_append_text (c := '\x60') (by decide), getLast?_append_text (c := 'n')
      (by decide +kernel)] at hlast
    exact absurd hlast (by decide)
  · intro h
    rw [if_pos h]
    refine ⟨"config ok: " ++ toString c.markers.length ++ " marker(s), " ++
      toString c.discriminators.length ++ " discriminator(s), escape template `" ++
        c.escapeTemplate ++ "`", ?_⟩
    have hnote : "\nnote: raw identifiers cannot be " ++ ", ".intercalate Naming.pathKeywords ++
        "; models producing them fail at generation" = "\n" ++ keywordNote := by
      decide +kernel
    rw [hnote, ← String.append_assoc]

end Settings

/-- What the check of settings refuses ends each generation with these settings, whatever the model,
the directory and the kind of run, with the same message and before anything is read or written.
Behind settings that it accepts no generation ends with a message about settings, and with one about
a keyword only if the check has told that this may happen. -/
theorem check_agrees (w : World) (config : Option String) :
    let checked := (check config : StateM World Report).run w
    checked.2 = w ∧ (checked.1.code = 0 ∨ checked.1.code = 1) ∧
      (checked.1.code = 1 → ∃ message, checked.1 = .failed message ∧ ∀ t model output dryRun,
        (generate t model config output dryRun : StateM World Report).run w =
          (.failed message, w)) ∧
      (checked.1.code = 0 → ∃ c, ((loadConfig config : StateM World _).run w).1 = .ok c ∧
        (Noted checked.1.output ↔ c.escapeTemplate = Naming.rawTemplate) ∧
        ∀ t model output dryRun,
          let report := ((generate t model config output dryRun : StateM World Report).run w).1
          report.code = 0 ∨ ∃ message, report.FailsWith message ∧
            (∀ e : SetupError, message ≠ e.message) ∧
            ∀ keyword, message = (PassError.rawPathKeyword keyword).message →
              Noted checked.1.output) := by
  intro checked
  cases hg : settled w config none with
  | error message =>
    have hchecked : checked = (.failed message, w) := check_of_not_settled hg
    rw [hchecked]
    refine ⟨rfl, Or.inr rfl, fun _ => ⟨message, rfl, fun t model output dryRun => ?_⟩, nofun⟩
    refine generate_of_not_settled ?_ dryRun
    rw [settled_output, hg]
    rfl
  | ok g =>
    have hchecked : checked = (⟨0, summary g.config ++ "\n", []⟩, w) := check_of_settled hg
    obtain ⟨c, hload, hconfig⟩ := (setUp_of_settled hg).2
    have hnoted : Noted checked.1.output ↔ g.config.escapeTemplate = Naming.rawTemplate := by
      rw [hchecked]
      exact summary_noted_iff
    refine ⟨by rw [hchecked], Or.inl (by rw [hchecked]), fun hcode => ?_, fun _ => ?_⟩
    · rw [hchecked] at hcode
      cases hcode
    · refine ⟨c, hload, by rw [hnoted, hconfig]; rfl, fun t model output dryRun => ?_⟩
      have hsettled : settled w config output =
          .ok { g with config := setOutput output g.config } := by
        rw [settled_output, hg]
        rfl
      refine (generate_outcome hsettled t model dryRun).imp id ?_
      rintro ⟨message, hfails, hlater⟩
      refine ⟨message, hfails, hlater.ne_setup, ?_⟩
      rintro keyword rfl
      rw [hnoted, ← escapeTemplate_setOutput output]
      exact hlater.rawTemplate_of_keyword

/-- A world in which the settings take the raw template. -/
def rawSettings : World where
  disk := (Disk.empty ["work"]).withFile "typemirror.toml"
    "escape_template = 'r#\x7bfield\x7d'\n".toUTF8
  input := ByteArray.empty

/-- Settings that are missing fail alike; the raw template is accepted with a note. -/
theorem rawSettings_checked :
    (∃ message,
      (check (some "missing.toml") : StateM World Report).run rawSettings =
        (.failed message, rawSettings) ∧
      (generate none "-" (some "missing.toml") none false : StateM World Report).run rawSettings =
        (.failed message, rawSettings)) ∧
      ((check none : StateM World Report).run rawSettings).1.code = 0 ∧
      Noted ((check none : StateM World Report).run rawSettings).1.output := by
  constructor
  · obtain ⟨hworld, -, hrefused, -⟩ := check_agrees rawSettings (some "missing.toml")
    obtain ⟨message, hmessage, hgenerate⟩ := hrefused (by decide +kernel)
    exact ⟨message, Prod.ext hmessage hworld, hgenerate none "-" none false⟩
  · have hcode : ((check none : StateM World Report).run rawSettings).1.code = 0 := by
      decide +kernel
    have htemplate : (((loadConfig none : StateM World _).run rawSettings).1.toOption.map
        (·.escapeTemplate)) = some Naming.rawTemplate := by
      decide +kernel
    obtain ⟨-, -, -, hok⟩ := check_agrees rawSettings none
    obtain ⟨c, hload, hnoted, -⟩ := hok hcode
    rw [hload] at htemplate
    exact ⟨hcode, hnoted.mpr (Option.some.inj htemplate)⟩

end Command
end Facsimile
