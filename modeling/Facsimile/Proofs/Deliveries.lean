import Facsimile.Delivery
import Facsimile.Proofs.Sheets

/-!
# What a sink has received

A sink is a state and a way to write a file, which changes the state and may fail.  `Takes` says
that it takes files one after another, and a delivery goes on as long as it does: all files are
taken, or there is a first that is refused, which is the last that the sink is offered.  With
`run_delivers` this is known of runs too, since a pass that fails has nothing to deliver.
-/

namespace Facsimile

variable {σ : Type}

namespace Sink

/-- A sink takes files one after another, which leads from one state to another. -/
inductive Takes (sink : Sink (StateM σ)) : σ → List File → σ → Prop
  | nil (s : σ) : Takes sink s [] s
  | cons {s s₁ s' : σ} {f : File} {fs : List File} :
    (sink f).run s = (.ok (), s₁) → Takes sink s₁ fs s' → Takes sink s (f :: fs) s'

/-- A sink that also keeps the files that it is offered, whether it takes them or not. -/
def recording (sink : Sink (StateM σ)) : Sink (StateM (σ × List File)) := fun f s =>
  match (sink f).run s.1 with
  | (result, s₁) => (result, (s₁, s.2 ++ [f]))

theorem recording_run (sink : Sink (StateM σ)) (f : File) (s : σ) (offered : List File) :
    (sink.recording f).run (s, offered) =
      (((sink f).run s).1, (((sink f).run s).2, offered ++ [f])) :=
  rfl

variable {sink : Sink (StateM σ)}

theorem Takes.recording {s s' : σ} {files : List File} (h : sink.Takes s files s')
    (offered : List File) :
    sink.recording.Takes (s, offered) files (s', offered ++ files) := by
  induction h generalizing offered with
  | nil s =>
    rw [List.append_nil]
    exact .nil _
  | @cons s s₁ s' f fs hfirst _ ih =>
    have hrest := ih (offered ++ [f])
    rw [List.append_assoc, List.singleton_append] at hrest
    refine .cons ?_ hrest
    rw [recording_run, hfirst]

/-- A sink takes all files, or there is a first that it refuses. -/
theorem takes_or_refuses (sink : Sink (StateM σ)) (files : List File) (s : σ) :
    (∃ s', sink.Takes s files s') ∨
      ∃ before f after s₁ e s₂, files = before ++ f :: after ∧ sink.Takes s before s₁ ∧
        (sink f).run s₁ = (.error e, s₂) := by
  induction files generalizing s with
  | nil => exact Or.inl ⟨s, .nil s⟩
  | cons f fs ih =>
    cases hfirst : (sink f).run s with
    | mk result s₁ =>
      cases result with
      | error e => exact Or.inr ⟨[], f, fs, s, e, s₁, rfl, .nil s, hfirst⟩
      | ok _ =>
        rcases ih s₁ with ⟨s', htakes⟩ | ⟨before, f', after, s₂, e, s₃, rfl, htakes, hrefused⟩
        · exact Or.inl ⟨s', .cons hfirst htakes⟩
        · exact Or.inr ⟨f :: before, f', after, s₂, e, s₃, rfl, .cons hfirst htakes, hrefused⟩

theorem takes_memory (files held : List File) : Sink.memory.Takes held files (held ++ files) := by
  induction files generalizing held with
  | nil =>
    rw [List.append_nil]
    exact .nil held
  | cons f fs ih =>
    have hrest := ih (held ++ [f])
    rw [List.append_assoc, List.singleton_append] at hrest
    exact .cons rfl hrest

end Sink

/-! ## Deliveries -/

theorem deliver_run_cons (sink : Sink (StateM σ)) (f : File) (fs : List File) (s : σ) :
    (deliver sink (f :: fs)).run s =
      match (sink f).run s with
      | (.error e, s) => (⟨[], some ⟨f.name, e⟩⟩, s)
      | (.ok (), s) =>
        match (deliver sink fs).run s with
        | (rest, s) => ({ rest with written := f.name :: rest.written }, s) := by
  rw [deliver, StateT.run_bind]
  cases (sink f).run s with
  | mk r s =>
    cases r with
    | error e => rfl
    | ok _ => rfl

variable {sink : Sink (StateM σ)}

/-- A delivery writes the files that the sink takes, and goes on with those behind them. -/
theorem deliver_append {s s' : σ} {files : List File} (h : sink.Takes s files s')
    (more : List File) :
    (deliver sink (files ++ more)).run s =
      match (deliver sink more).run s' with
      | (rest, s) => ({ rest with written := files.map (·.name) ++ rest.written }, s) := by
  induction h with
  | nil s => rfl
  | @cons s s₁ s' f fs hfirst _ ih =>
    rw [List.cons_append, deliver_run_cons, hfirst]
    simp only
    rw [ih]
    rfl

theorem deliver_of_takes {s s' : σ} {files : List File} (h : sink.Takes s files s') :
    (deliver sink files).run s = (⟨files.map (·.name), none⟩, s') := by
  have hall := deliver_append h []
  rw [List.append_nil] at hall
  rw [hall]
  show (Delivery.mk (files.map (·.name) ++ []) none, s') = _
  rw [List.append_nil]

theorem deliver_of_refused {s s₁ s₂ : σ} {before after : List File} {f : File} {e : IoError}
    (h : sink.Takes s before s₁) (hrefused : (sink f).run s₁ = (.error e, s₂)) :
    (deliver sink (before ++ f :: after)).run s =
      (⟨before.map (·.name), some ⟨f.name, e⟩⟩, s₂) := by
  rw [deliver_append h, deliver_run_cons, hrefused]
  show (Delivery.mk (before.map (·.name) ++ []) (some ⟨f.name, e⟩), s₂) = _
  rw [List.append_nil]

/-! ## Runs -/

namespace Generator

theorem run_eq (g : Generator) (model : List Declaration) (sink : Sink (StateM σ)) (s : σ) :
    (g.run model sink).run s =
      match g.generate model with
      | .error e => (⟨g.report model, .error (.pass e)⟩, s)
      | .ok files =>
        match (deliver sink files).run s with
        | (r, s) => (⟨g.report model ++ r.written.map .wrote, r.outcome⟩, s) := by
  show (StateT.run (match g.generate model with | .error e => _ | .ok files => _) s) = _
  cases g.generate model with
  | error e => rfl
  | ok files => rfl

/-- What a run comes to: what it returns, the state that it leaves the sink in, and the files that
it offered to the sink. -/
structure RunsTo (g : Generator) (model : List Declaration) (sink : Sink (StateM σ)) (s : σ)
    (outcome : Except RunError Nat) (s' : σ) (offered : List File) : Prop where
  outcome : ((g.run model sink).run s).1.outcome = outcome
  state : ((g.run model sink).run s).2 = s'
  offered : ((g.run model sink.recording).run (s, [])).2.2 = offered

section RunsTo

variable {g : Generator} {model : List Declaration} {s : σ}

theorem RunsTo.of_run {outcome : Except RunError Nat} {s' t : σ} {offered : List File} {r : Run}
    (h : g.RunsTo model sink s outcome s' offered) (hrun : (g.run model sink).run s = (r, t)) :
    r.outcome = outcome ∧ t = s' := by
  obtain ⟨houtcome, hstate, -⟩ := h
  rw [hrun] at houtcome hstate
  exact ⟨houtcome, hstate⟩

theorem runsTo_of_error {e : PassError} (h : g.generate model = .error e) :
    g.RunsTo model sink s (.error (.pass e)) s [] := by
  constructor <;> rw [run_eq, h]

theorem runsTo_of_deliver {files offered : List File} {r r' : Delivery} {s' t : σ}
    (h : g.generate model = .ok files) (hdeliver : (deliver sink files).run s = (r, s'))
    (hrecord : (deliver sink.recording files).run (s, []) = (r', (t, offered))) :
    g.RunsTo model sink s r.outcome s' offered := by
  constructor
  case outcome => simp only [run_eq, h, hdeliver]
  case state => simp only [run_eq, h, hdeliver]
  case offered => simp only [run_eq, h, hrecord]

theorem runsTo_of_takes {files : List File} {s' : σ} (h : g.generate model = .ok files)
    (htakes : sink.Takes s files s') : g.RunsTo model sink s (.ok files.length) s' files := by
  have hruns := runsTo_of_deliver h (deliver_of_takes htakes)
    (deliver_of_takes (htakes.recording []))
  have houtcome : Delivery.outcome ⟨files.map (·.name), none⟩ = .ok files.length :=
    congrArg Except.ok (List.length_map _)
  rwa [houtcome] at hruns

theorem runsTo_of_refused {before after : List File} {f : File} {s₁ s₂ : σ} {e : IoError}
    (h : g.generate model = .ok (before ++ f :: after)) (htakes : sink.Takes s before s₁)
    (hrefused : (sink f).run s₁ = (.error e, s₂)) :
    g.RunsTo model sink s (.error (.write ⟨f.name, e⟩)) s₂ (before ++ [f]) := by
  have hrefused' : (sink.recording f).run (s₁, [] ++ before) =
      (.error e, (s₂, before ++ [f])) := by
    rw [Sink.recording_run, hrefused]
    rfl
  exact runsTo_of_deliver h (deliver_of_refused htakes hrefused)
    (deliver_of_refused (htakes.recording []) hrefused')

end RunsTo

/-- The files that a pass gives: none if it fails. -/
def output (g : Generator) (model : List Declaration) : List File :=
  (g.generate model).toOption.getD []

/-- Runs of several generators and models with one sink. -/
def runs (sink : Sink (StateM σ)) (calls : List (Generator × List Declaration)) :
    StateM σ (List Run) :=
  calls.mapM fun call => call.1.run call.2 sink

theorem run_memory (g : Generator) (model : List Declaration) (held : List File) :
    ((g.run model Sink.memory).run held).2 = held ++ g.output model := by
  unfold output
  cases h : g.generate model with
  | error e =>
    rw [(runsTo_of_error h).state]
    exact (List.append_nil held).symm
  | ok files => exact (runsTo_of_takes h (Sink.takes_memory files held)).state

theorem runs_memory (calls : List (Generator × List Declaration)) (held : List File) :
    ((runs Sink.memory calls).run held).2 =
      held ++ calls.flatMap fun call => call.1.output call.2 := by
  induction calls generalizing held with
  | nil => exact (List.append_nil held).symm
  | cons call calls ih =>
    have hstep : ((runs Sink.memory (call :: calls)).run held).2 =
        ((runs Sink.memory calls).run ((call.1.run call.2 Sink.memory).run held).2).2 := by
      unfold runs
      rw [List.mapM_cons]
      rfl
    rw [hstep, run_memory, ih, List.flatMap_cons, List.append_assoc]

/-- A run whose pass fails leaves the sink as it is.  Any other offers the files of the pass in
their order, up to the first that the sink refuses, and tells how many there are or which was
refused.  So a sink in memory holds what it held and the files of all passes that succeeded. -/
theorem run_delivers (g : Generator) (model : List Declaration) :
    (∀ {σ : Type} (sink : Sink (StateM σ)) (s : σ),
      (∀ e, g.generate model = .error e → g.RunsTo model sink s (.error (.pass e)) s []) ∧
      ∀ files, g.generate model = .ok files →
        (∀ s', sink.Takes s files s' → g.RunsTo model sink s (.ok files.length) s' files) ∧
        (∀ before f after s₁ e s₂, files = before ++ f :: after → sink.Takes s before s₁ →
          (sink f).run s₁ = (.error e, s₂) →
            g.RunsTo model sink s (.error (.write ⟨f.name, e⟩)) s₂ (before ++ [f])) ∧
        ((∃ s', sink.Takes s files s') ∨
          ∃ before f after s₁ e s₂, files = before ++ f :: after ∧ sink.Takes s before s₁ ∧
            (sink f).run s₁ = (.error e, s₂))) ∧
      ∀ (calls : List (Generator × List Declaration)) (held : List File),
        ((runs Sink.memory calls).run held).2 =
          held ++ calls.flatMap fun call => call.1.output call.2 := by
  constructor
  · intro σ sink s
    refine ⟨fun e h => runsTo_of_error h, fun files h => ⟨?_, ?_, sink.takes_or_refuses files s⟩⟩
    · intro s' htakes
      exact runsTo_of_takes h htakes
    · intro before f after s₁ e s₂ hsplit htakes hrefused
      rw [hsplit] at h
      exact runsTo_of_refused h htakes hrefused
  · exact runs_memory

/-- Keeps as many files as there is room for. -/
def roomFor (room : Nat) : Sink (StateM (List File)) := fun f => do
  if (← get).length < room then Sink.memory f else return .error (.other "sink full")

/-- Two files for a sink with room for one, and two units that want the same file. -/
theorem discs_delivered :
    (∃ first second : File,
      standard.generate [discIn "Disc.kt", discIn "Round.kt"] = .ok [first, second] ∧
        standard.RunsTo [discIn "Disc.kt", discIn "Round.kt"] (roomFor 1) []
          (.error (.write ⟨second.name, .other "sink full"⟩)) [first] [first, second] ∧
        standard.RunsTo [discIn "Disc.kt", discIn "Round.kt"] (roomFor 2) [] (.ok 2)
          [first, second] [first, second]) ∧
      (∃ e, standard.generate [discIn "a/Disc.kt", discIn "b/Disc.kt"] = .error e ∧
        standard.RunsTo [discIn "a/Disc.kt", discIn "b/Disc.kt"] (roomFor 1) []
          (.error (.pass e)) [] []) ∧
      ((runs Sink.memory [(standard, [discIn "Disc.kt"]),
          (standard, [discIn "a/Disc.kt", discIn "b/Disc.kt"]),
          (standard, [discIn "Disc.kt"])]).run []).2 =
        standard.output [discIn "Disc.kt"] ++ standard.output [discIn "Disc.kt"] := by
  refine ⟨⟨_, _, rfl, ?_, ?_⟩, ⟨_, rfl, ?_⟩, ?_⟩
  · have hruns := (run_delivers standard [discIn "Disc.kt", discIn "Round.kt"]).1 (roomFor 1) []
    exact (hruns.2 _ rfl).2.1 [_] _ [] _ _ _ rfl (.cons rfl (.nil _)) rfl
  · have hruns := (run_delivers standard [discIn "Disc.kt", discIn "Round.kt"]).1 (roomFor 2) []
    exact (hruns.2 _ rfl).1 _ (.cons rfl (.cons rfl (.nil _)))
  · exact ((run_delivers standard _).1 (roomFor 1) []).1 _ rfl
  · rw [(run_delivers standard []).2]
    rfl

end Generator
end Facsimile
