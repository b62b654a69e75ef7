import Facsimile.Proofs.Deliveries
import Facsimile.Proofs.Disks
import Facsimile.Proofs.FileNames

/-!
# Where a run writes

A run that succeeds hands its files to the sink one after another.  Where the sink is a directory
and the name of each file is one component of a path, they all are in that directory afterwards,
each with its content, and beside them only directories on the way there are new.  The name of a
file may be none, though: a source unit without base name gives its whole text, and then the file is
written elsewhere.  So a run is contained in its directory exactly if the units of its files have
base names (`run_contained_iff`).
-/

namespace Facsimile

open Facsimile.Path (IsComponent)

namespace Disk

/-- A location is that of a name directly in the directory of a path. -/
def HasEntry (d : Disk) (path name : String) (location : List String) : Prop :=
  ∃ home, d.reach (Path.ofText path) = .ok home ∧ location = home ++ [name]

/-- A disk after files were written into the directory of a path. -/
structure Receives (d : Disk) (path : String) (files : List File) (d' : Disk) : Prop where
  workingDirectory : d'.workingDirectory = d.workingDirectory
  holds : ∀ f ∈ files, ∃ location, d'.HasEntry path f.name location ∧
    d'.node? location = some (.file f.content.toUTF8) ∧
    d'.read (Path.join path f.name) = .ok f.content.toUTF8
  /-- Beside the files, directories on the way to the path may be new. -/
  untouched : ∀ location, d'.node? location = d.node? location ∨
    (d.node? location ≠ some .directory ∧ ∃ f ∈ files, d'.HasEntry path f.name location) ∨
    (d.node? location = none ∧ d'.node? location = some .directory ∧
      ∃ way, way <+: (Path.ofText path).steps ∧
        d'.walk (d'.start (Path.ofText path)) way = .ok location)

/-- Files were written into the directory of a path, each under a name of its own there, and nothing
was written elsewhere. -/
structure Contained (d : Disk) (path : String) (files : List File) (d' : Disk) : Prop
    extends Receives d path files d' where
  component : ∀ f ∈ files, IsComponent f.name
  distinct : (files.map (·.name)).Nodup

theorem HasEntry.of_grows {d d' : Disk} (h : d.Grows d') {path name : String}
    {location : List String} (hentry : d.HasEntry path name location) :
    d'.HasEntry path name location := by
  obtain ⟨home, hreach, hlocation⟩ := hentry
  exact ⟨home, h.reach hreach, hlocation⟩

theorem HasEntry.name_unique {d : Disk} {path name name' : String} {location : List String}
    (h : d.HasEntry path name location) (h' : d.HasEntry path name' location) : name = name' := by
  obtain ⟨home, hreach, rfl⟩ := h
  obtain ⟨home', hreach', hsame⟩ := h'
  exact (List.append_inj' hsame rfl).2 |> List.singleton_inj.mp

namespace Receives

variable {d d' d'' : Disk} {path : String} {fs gs : List File}

theorem refl (d : Disk) (path : String) : d.Receives path [] d :=
  ⟨rfl, fun _ hf => (List.not_mem_nil hf).elim, fun _ => Or.inl rfl⟩

theorem grows (h : d.Receives path fs d') : d.Grows d' := by
  refine ⟨h.workingDirectory, fun location hd => ?_⟩
  rcases h.untouched location with hsame | ⟨hno, -⟩ | ⟨hnone, -, -⟩
  · rw [hsame, hd]
  · exact absurd hd hno
  · rw [hnone] at hd
    cases hd

/-- A file stays where it is while files of other names are written. -/
theorem holds_after (h : d.Receives path gs d') {f : File} (hname : IsComponent f.name)
    (hother : ∀ f' ∈ gs, f'.name ≠ f.name) {location : List String}
    (hentry : d.HasEntry path f.name location)
    (hnode : d.node? location = some (.file f.content.toUTF8))
    (hread : d.read (Path.join path f.name) = .ok f.content.toUTF8) :
    d'.HasEntry path f.name location ∧ d'.node? location = some (.file f.content.toUTF8) ∧
      d'.read (Path.join path f.name) = .ok f.content.toUTF8 := by
  have hentry' := hentry.of_grows h.grows
  have hkept : d'.node? location = some (.file f.content.toUTF8) := by
    rcases h.untouched location with hsame | ⟨-, f', hf', hat⟩ | ⟨hnone, -, -⟩
    · rw [hsame, hnode]
    · exact absurd (hat.name_unique hentry') (hother f' hf')
    · rw [hnone] at hnode
      cases hnode
  refine ⟨hentry', hkept, ?_⟩
  obtain ⟨home, hreach, rfl⟩ := hentry
  obtain ⟨hparse, hshort, -⟩ := (read_join_iff hreach hname).mp hread
  exact (read_join_iff (h.grows.reach hreach) hname).mpr ⟨hparse, hshort, hkept⟩

theorem append (h : d.Receives path fs d') (h' : d'.Receives path gs d'')
    (hnames : ∀ f ∈ fs, IsComponent f.name)
    (hother : ∀ f ∈ fs, ∀ f' ∈ gs, f'.name ≠ f.name) : d.Receives path (fs ++ gs) d'' := by
  refine ⟨h'.workingDirectory.trans h.workingDirectory, ?_, ?_⟩
  · intro f hf
    rcases List.mem_append.mp hf with hf | hf
    · obtain ⟨location, hentry, hnode, hread⟩ := h.holds f hf
      exact ⟨location, h'.holds_after (hnames f hf) (hother f hf) hentry hnode hread⟩
    · exact h'.holds f hf
  · intro location
    rcases h.untouched location with hsame | ⟨hno, f, hf, hentry⟩ | ⟨hnone, hmade, way, hway, hwalk⟩
    · rw [← hsame]
      rcases h'.untouched location with hsame' | ⟨hno, f, hf, hentry⟩ | hmade
      · exact Or.inl hsame'
      · exact Or.inr (Or.inl ⟨hno, f, List.mem_append_right fs hf, hentry⟩)
      · exact Or.inr (Or.inr hmade)
    · exact Or.inr (Or.inl ⟨hno, f, List.mem_append_left gs hf, hentry.of_grows h'.grows⟩)
    · refine Or.inr (Or.inr ⟨hnone, h'.grows.directory location hmade, way, hway, ?_⟩)
      rw [h'.grows.start_eq]
      exact h'.grows.walk hwalk

end Receives

/-! ## Deliveries -/

/-- A directory of a disk as a sink. -/
def sink (path : String) : Sink (StateM Disk) := Sink.directory path

theorem sink_run (path : String) (f : File) (d : Disk) :
    (sink path f).run d =
      match d.makeDirectories path with
      | (.error e, d) => (.error e, d)
      | (.ok (), d) =>
        match d.write (Path.join path f.name) f.content.toUTF8 with
        | .ok d => (.ok (), d)
        | .error e => (.error e, d) := by
  have hmake : (FileSystem.makeDirectories path : StateM Disk (Except IoError Unit)).run d =
      d.makeDirectories path := rfl
  show (FileSystem.makeDirectories path >>= fun _ => _ : StateM Disk _).run d = _
  rw [StateT.run_bind, hmake]
  cases d.makeDirectories path with
  | mk r d =>
    cases r with
    | error e => rfl
    | ok _ => rfl

theorem receives_of_sink {d d' : Disk} {path : String} {f : File} (hname : IsComponent f.name)
    (h : (sink path f).run d = (.ok (), d')) : d.Receives path [f] d' := by
  rw [sink_run] at h
  have hextends := d.makeDirectories_extends path
  have hreaches : (d.makeDirectories path).1 = .ok () →
      ∃ home, (d.makeDirectories path).2.reach (Path.ofText path) = .ok home :=
    makeDirectories_reaches
  cases hmake : d.makeDirectories path with
  | mk made d₁ =>
    rw [hmake] at h hextends hreaches
    cases made with
    | error e => cases h
    | ok _ =>
      obtain ⟨home, hreach⟩ := hreaches rfl
      simp only at h
      cases hwrite : d₁.write (Path.join path f.name) f.content.toUTF8 with
      | error e =>
        rw [hwrite] at h
        cases h
      | ok d₂ =>
        rw [hwrite] at h
        obtain rfl : d₂ = d' := congrArg Prod.snd h
        obtain ⟨hparse, hshort, hfile, rfl⟩ := write_join_eq_ok hreach hname hwrite
        have hne : home ++ [f.name] ≠ [] := by simp
        have hgrows : d₁.Grows (d₁.put (home ++ [f.name]) (.file f.content.toUTF8)) :=
          put_grows (fun hdirectory => absurd hdirectory hfile) hne
        have hentry : HasEntry (d₁.put (home ++ [f.name]) (.file f.content.toUTF8)) path f.name
            (home ++ [f.name]) := ⟨home, hgrows.reach hreach, rfl⟩
        have hnode := node?_put_self hne d₁ (.file f.content.toUTF8)
        refine ⟨hextends.workingDirectory, ?_, ?_⟩
        · intro f' hf'
          rw [List.mem_singleton.mp hf']
          refine ⟨home ++ [f.name], hentry, hnode, ?_⟩
          exact (read_join_iff (hgrows.reach hreach) hname).mpr ⟨hparse, hshort, hnode⟩
        · intro location
          by_cases hat : location = home ++ [f.name]
          · subst hat
            refine Or.inr (Or.inl ⟨?_, f, List.mem_singleton.mpr rfl, hentry⟩)
            intro hdirectory
            exact hfile (hextends.grows.directory _ hdirectory)
          · rw [node?_put_of_ne hat]
            rcases hextends.node location with hsame | ⟨hnone, hmade, way, hway, hwalk⟩
            · exact Or.inl hsame
            · refine Or.inr (Or.inr ⟨hnone, hmade, way, hway, ?_⟩)
              rw [hgrows.start_eq]
              exact hgrows.walk hwalk

theorem receives_of_takes {path : String} {files : List File}
    (hnames : ∀ f ∈ files, IsComponent f.name) (hdistinct : (files.map (·.name)).Nodup)
    {d d' : Disk} (h : (sink path).Takes d files d') : d.Receives path files d' := by
  induction h with
  | nil d => exact Receives.refl d path
  | @cons d d₁ d' f fs hfirst _ ih =>
    obtain ⟨hnew, hdistinct⟩ := List.nodup_cons.mp hdistinct
    have hone := receives_of_sink (hnames f List.mem_cons_self) hfirst
    have hrest : ∀ f' ∈ fs, IsComponent f'.name := fun f' hf' =>
      hnames f' (List.mem_cons_of_mem f hf')
    refine hone.append (ih hrest hdistinct) ?_ ?_
    · intro f' hf'
      rw [List.mem_singleton.mp hf']
      exact hnames f List.mem_cons_self
    · intro f' hf' f'' hf'' hsame
      rw [List.mem_singleton.mp hf'] at hsame
      exact hnew (List.mem_map.mpr ⟨f'', hf'', hsame⟩)

end Disk

/-! ## Runs -/

namespace Generator

/-- A run that succeeds is contained in its directory exactly if the units of its files have base
names. -/
theorem run_contained_iff (g : Generator) {model : List Declaration} {path : String} {d d' : Disk}
    {r : Run} (hrun : (g.run model (Disk.sink path)).run d = (r, d')) {n : Nat}
    (hok : r.outcome = .ok n) :
    ∃ files, g.generate model = .ok files ∧ n = files.length ∧
      (d.Contained path files d' ↔
        ∀ f ∈ files, ∀ unit, f.unit = some unit → Naming.HasBaseName unit) := by
  cases hfiles : g.generate model with
  | error e =>
    have hruns : g.RunsTo model (Disk.sink path) d _ _ _ := runsTo_of_error hfiles
    rw [(hruns.of_run hrun).1] at hok
    cases hok
  | ok files =>
    rcases (Disk.sink path).takes_or_refuses files d with
      ⟨d₁, htakes⟩ | ⟨before, f, after, d₁, e, d₂, rfl, htakes, hrefused⟩
    · obtain ⟨houtcome, rfl⟩ := (runsTo_of_takes hfiles htakes).of_run hrun
      rw [houtcome] at hok
      refine ⟨files, rfl, (Except.ok.inj hok).symm, ?_⟩
      rw [← components_iff hfiles]
      constructor
      · intro h
        exact h.component
      · intro h
        have hdistinct := names_nodup hfiles
        exact ⟨Disk.receives_of_takes h hdistinct htakes, h, hdistinct⟩
    · have hruns := runsTo_of_refused hfiles htakes hrefused
      rw [(hruns.of_run hrun).1] at hok
      cases hok

def pointIn (unit : String) : Declaration := marked ((Declaration.record "m.Point" []).inUnit unit)

theorem outcome_of_toOption {r : Run} {n : Nat} (h : r.outcome.toOption = some n) :
    r.outcome = .ok n := by
  cases hr : r.outcome with
  | error e =>
    rw [hr] at h
    cases h
  | ok m =>
    rw [hr] at h
    exact congrArg Except.ok (Option.some.inj h)

theorem point_contained_iff :
    ∃ r d', (standard.run [pointIn "Point.kt"] (Disk.sink "out")).run (Disk.empty ["work"]) =
        (r, d') ∧
      r.outcome = .ok 1 ∧
      ∃ files, standard.generate [pointIn "Point.kt"] = .ok files ∧ 1 = files.length ∧
        ((Disk.empty ["work"]).Contained "out" files d' ↔
          ∀ f ∈ files, ∀ unit, f.unit = some unit → Naming.HasBaseName unit) := by
  have hok := outcome_of_toOption (n := 1) (r := ((standard.run [pointIn "Point.kt"]
    (Disk.sink "out")).run (Disk.empty ["work"])).1) (by decide +kernel)
  exact ⟨_, _, (Prod.eta _).symm, hok, run_contained_iff standard (Prod.eta _).symm hok⟩

/-- The unit `../` has no base name, and its file is written next to the directory. -/
theorem point_not_contained :
    new Config.default = .ok standard ∧
      ∃ r d' f, (standard.run [pointIn "../"] (Disk.sink "out")).run (Disk.empty ["work"]) =
          (r, d') ∧
        r.outcome = .ok 1 ∧ standard.generate [pointIn "../"] = .ok [f] ∧
        (Disk.empty ["work"]).isFile ".rs" = false ∧ d'.isFile ".rs" = true ∧
        d'.isDirectory "out" = true ∧ d'.isFile "out/.rs" = false ∧
        ¬(Disk.empty ["work"]).Contained "out" [f] d' := by
  refine ⟨new_default, _, _, _, (Prod.eta _).symm, outcome_of_toOption (by decide +kernel), rfl,
    by decide +kernel, by decide +kernel, by decide +kernel, by decide +kernel, ?_⟩
  intro h
  have hname := h.component _ (List.mem_singleton.mpr rfl)
  have hslash : ¬IsComponent (Naming.fileName "../") := by decide +kernel
  exact hslash hname

end Generator
end Facsimile
