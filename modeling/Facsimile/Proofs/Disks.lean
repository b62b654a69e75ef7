import Facsimile.Proofs.Paths
import Facsimile.Storage.Disk

/-!
# What making directories and writing do to a disk

A disk grows if its directories stay directories, and then a path that leads to a directory keeps
leading there.  Making the directories of a path adds directories on the way to it and changes
nothing else (`makeDirectories_extends`); reading and writing a name within a directory are about
the one location that has this name there (`read_join_iff`, `write_join_iff`).
-/

namespace Facsimile

open Facsimile.Path (IsComponent)

namespace Disk

/-- Where a path starts from. -/
def start (d : Disk) (p : Path) : List String := if p.absolute then [] else d.workingDirectory

/-- The directory that a path leads to. -/
def reach (d : Disk) (p : Path) : Except IoError (List String) := d.walk (d.start p) p.parts

theorem exists_of_bind_eq_ok {ε α β : Type} {x : Except ε α} {f : α → Except ε β} {b : β}
    (h : (x >>= f) = .ok b) : ∃ a, x = .ok a ∧ f a = .ok b := by
  cases x with
  | error e => cases h
  | ok a => exact ⟨a, rfl, h⟩

/-- What a location stands for, unless its name is too long. -/
theorem entry?_eq_ok_iff {d : Disk} {location : List String} {n : Option Node} :
    d.entry? location = .ok n ↔
      (∀ name ∈ location.getLast?, name.utf8ByteSize ≤ Path.nameLimit) ∧ d.node? location = n := by
  unfold entry?
  cases location.getLast? with
  | none => simp
  | some name =>
    by_cases hlong : Path.nameLimit < name.utf8ByteSize
    · refine iff_of_false ?_ fun h => absurd (h.1 name rfl) (Nat.not_le.mpr hlong)
      simp [hlong]
    · simp [hlong, Nat.not_lt.mp hlong]

/-! ## Walking -/

section Walk

variable {d : Disk} {here : List String}

theorem walk_dot (parts : List String) : d.walk here ("." :: parts) = d.walk here parts := rfl

theorem walk_dots (parts : List String) :
    d.walk here (".." :: parts) = d.walk here.dropLast parts := rfl

theorem walk_name {part : String} (hdot : part ≠ ".") (hdots : part ≠ "..") (parts : List String) :
    d.walk here (part :: parts) =
      match d.entry? (here ++ [part]) with
      | .error e => .error e
      | .ok none => .error .notFound
      | .ok (some (.file _)) => .error .notADirectory
      | .ok (some .directory) => d.walk (here ++ [part]) parts :=
  (if_neg hdot).trans (if_neg hdots)

theorem walk_name_eq_ok {part : String} (hdot : part ≠ ".") (hdots : part ≠ "..")
    {parts location : List String} (h : d.walk here (part :: parts) = .ok location) :
    d.entry? (here ++ [part]) = .ok (some .directory) ∧
      d.walk (here ++ [part]) parts = .ok location := by
  rw [walk_name hdot hdots] at h
  split at h
  · cases h
  · cases h
  · cases h
  · rename_i hentry
    exact ⟨hentry, h⟩

theorem walk_append (a b : List String) :
    d.walk here (a ++ b) = (d.walk here a).bind fun location => d.walk location b := by
  induction a generalizing here with
  | nil => rfl
  | cons part a ih =>
    rw [List.cons_append]
    by_cases hdot : part = "."
    · subst hdot
      rw [walk_dot, walk_dot, ih]
    · by_cases hdots : part = ".."
      · subst hdots
        rw [walk_dots, walk_dots, ih]
      · rw [walk_name hdot hdots, walk_name hdot hdots, ih]
        split
        · rfl
        · rfl
        · rfl
        · rfl

theorem walk_directory {part : String} (hdot : part ≠ ".") (hdots : part ≠ "..")
    (h : d.entry? (here ++ [part]) = .ok (some .directory)) :
    d.walk here [part] = .ok (here ++ [part]) := by
  rw [walk_name hdot hdots, h]
  rfl

theorem walk_without_dots (parts : List String) :
    d.walk here (parts.filter (· ≠ ".")) = d.walk here parts := by
  induction parts generalizing here with
  | nil => rfl
  | cons part parts ih =>
    by_cases hdot : part = "."
    · subst hdot
      have hfilter : ("." :: parts).filter (· ≠ ".") = parts.filter (· ≠ ".") := rfl
      rw [hfilter, walk_dot, ih]
    · have hfilter : (part :: parts).filter (· ≠ ".") = part :: parts.filter (· ≠ ".") := by
        simp [hdot]
      rw [hfilter]
      by_cases hdots : part = ".."
      · subst hdots
        rw [walk_dots, walk_dots, ih]
      · rw [walk_name hdot hdots, walk_name hdot hdots, ih]

theorem walk_steps (p : Path) : d.walk here p.steps = d.walk here p.parts := by
  obtain ⟨absolute, parts, slashEnded⟩ := p
  cases parts with
  | nil => rfl
  | cons part rest =>
    show d.walk here ((if part = "." ∧ absolute then [] else [part]) ++ rest.filter (· ≠ ".")) =
      d.walk here ([part] ++ rest)
    rw [walk_append, walk_append]
    have hfirst : d.walk here (if part = "." ∧ absolute then [] else [part]) =
        d.walk here [part] := by
      split
      · rename_i hdot
        rw [hdot.1]
        rfl
      · rfl
    rw [hfirst]
    congr 1
    funext location
    exact walk_without_dots rest

end Walk

/-! ## Growing disks -/

/-- What is a directory stays one, and paths start from where they did. -/
structure Grows (d d' : Disk) : Prop where
  workingDirectory : d'.workingDirectory = d.workingDirectory
  directory : ∀ location, d.node? location = some .directory → d'.node? location = some .directory

namespace Grows

variable {d d' : Disk}

theorem start_eq (h : d.Grows d') (p : Path) : d'.start p = d.start p := by
  show (if p.absolute then [] else d'.workingDirectory) = _
  rw [h.workingDirectory]
  rfl

theorem entry?_directory (h : d.Grows d') {location : List String}
    (hd : d.entry? location = .ok (some .directory)) :
    d'.entry? location = .ok (some .directory) := by
  unfold entry? at hd ⊢
  split at hd
  · cases hd
  · rename_i hshort
    rw [if_neg hshort, h.directory location (Except.ok.inj hd)]

theorem walk (h : d.Grows d') {here parts location : List String}
    (hwalk : d.walk here parts = .ok location) : d'.walk here parts = .ok location := by
  induction parts generalizing here with
  | nil => exact hwalk
  | cons part parts ih =>
    by_cases hdot : part = "."
    · subst hdot
      exact ih hwalk
    · by_cases hdots : part = ".."
      · subst hdots
        exact ih hwalk
      · obtain ⟨hentry, hrest⟩ := walk_name_eq_ok hdot hdots hwalk
        rw [walk_name hdot hdots, h.entry?_directory hentry]
        exact ih hrest

theorem reach (h : d.Grows d') {p : Path} {location : List String}
    (hreach : d.reach p = .ok location) : d'.reach p = .ok location := by
  show d'.walk (d'.start p) p.parts = .ok location
  rw [h.start_eq]
  exact h.walk hreach

end Grows

theorem put_grows {d : Disk} {location : List String} {n : Node}
    (h : d.node? location = some .directory → n = .directory) (hne : location ≠ []) :
    d.Grows (d.put location n) := by
  refine ⟨rfl, fun other hother => ?_⟩
  by_cases heq : other = location
  · subst heq
    rw [node?_put_self hne, h hother]
  · rw [node?_put_of_ne heq, hother]

/-! ## Places -/

/-- The place of a path whose last part is a name. -/
theorem locate_name {d : Disk} {p : Path} {parts : List String} {last : String}
    (hp : p.parts = parts ++ [last]) (hdot : last ≠ ".") (hdots : last ≠ "..") :
    d.locate p = (d.walk (d.start p) parts).map fun here => .entry (here ++ [last]) := by
  show (d.walk (d.start p) p.parts.dropLast >>= fun here => _) = _
  rw [hp, List.dropLast_concat, List.getLast?_concat]
  cases d.walk (d.start p) parts with
  | error e => rfl
  | ok here =>
    show (if last = "." then _ else if last = ".." then _ else _) = _
    rw [if_neg hdot, if_neg hdots]
    rfl

/-- A path that is not one of a name leads to a directory. -/
theorem locate_cases {d : Disk} {p : Path} {place : Place} (h : d.locate p = .ok place) :
    (∃ location, place = .directory location ∧ d.reach p = .ok location) ∨
      ∃ parts last here, place = .entry (here ++ [last]) ∧ p.parts = parts ++ [last] ∧
        last ≠ "." ∧ last ≠ ".." ∧ d.walk (d.start p) parts = .ok here := by
  rcases List.eq_nil_or_concat p.parts with hnil | ⟨parts, last, hp⟩
  · have hreach : d.reach p = .ok (d.start p) := by
      show d.walk (d.start p) p.parts = _
      rw [hnil]
      rfl
    have hlocate : d.locate p = .ok (.directory (d.start p)) := by
      show (d.walk (d.start p) p.parts.dropLast >>= fun here => _) = _
      rw [hnil]
      rfl
    rw [hlocate] at h
    exact Or.inl ⟨d.start p, (Except.ok.inj h).symm, hreach⟩
  · rw [List.concat_eq_append] at hp
    by_cases hname : last ≠ "." ∧ last ≠ ".."
    · rw [locate_name hp hname.1 hname.2] at h
      cases hwalk : d.walk (d.start p) parts with
      | error e =>
        rw [hwalk] at h
        cases h
      | ok here =>
        rw [hwalk] at h
        exact Or.inr ⟨parts, last, here, (Except.ok.inj h).symm, hp, hname.1, hname.2, hwalk⟩
    · have hlocate : d.locate p = (d.walk (d.start p) parts).bind fun here =>
          (d.walk here [last]).map .directory := by
        show (d.walk (d.start p) p.parts.dropLast >>= fun here => _) = _
        rw [hp, List.dropLast_concat, List.getLast?_concat]
        rw [not_and_or, not_not, not_not] at hname
        rcases hname with rfl | rfl
        · rfl
        · rfl
      have hreach : d.reach p = (d.walk (d.start p) parts).bind fun here => d.walk here [last] := by
        show d.walk (d.start p) p.parts = _
        rw [hp, walk_append]
      rw [hlocate] at h
      rw [hreach]
      cases hwalk : d.walk (d.start p) parts with
      | error e =>
        rw [hwalk] at h
        cases h
      | ok here =>
        rw [hwalk] at h
        have hplace : (d.walk here [last]).map Place.directory = .ok place := h
        cases hlast : d.walk here [last] with
        | error e =>
          rw [hlast] at hplace
          cases hplace
        | ok location =>
          rw [hlast] at hplace
          exact Or.inl ⟨location, (Except.ok.inj hplace).symm, hlast⟩

/-! ## Making directories -/

/-- A disk has more directories, each of them made on the way to `p`, and else is as it was. -/
structure Extends (d : Disk) (p : Path) (d' : Disk) : Prop where
  workingDirectory : d'.workingDirectory = d.workingDirectory
  node : ∀ location, d'.node? location = d.node? location ∨
    (d.node? location = none ∧ d'.node? location = some .directory ∧
      ∃ way, way <+: p.steps ∧ d'.walk (d'.start p) way = .ok location)

namespace Extends

variable {d d' d'' : Disk} {p : Path}

theorem refl (d : Disk) (p : Path) : d.Extends p d := ⟨rfl, fun _ => Or.inl rfl⟩

theorem grows (h : d.Extends p d') : d.Grows d' := by
  refine ⟨h.workingDirectory, fun location hd => ?_⟩
  rcases h.node location with hsame | ⟨hnone, -, -⟩
  · rw [hsame, hd]
  · rw [hnone] at hd
    cases hd

theorem trans (h : d.Extends p d') (h' : d'.Extends p d'') : d.Extends p d'' := by
  refine ⟨h'.workingDirectory.trans h.workingDirectory, fun location => ?_⟩
  rcases h'.node location with hsame' | ⟨hnone', hmade', hway'⟩
  · rcases h.node location with hsame | ⟨hnone, hmade, way, hprefix, hwalk⟩
    · exact Or.inl (hsame'.trans hsame)
    · refine Or.inr ⟨hnone, hsame'.trans hmade, way, hprefix, ?_⟩
      rw [h'.grows.start_eq]
      exact h'.grows.walk hwalk
  · rcases h.node location with hsame | ⟨-, hmade, -⟩
    · exact Or.inr ⟨hsame ▸ hnone', hmade', hway'⟩
    · rw [hmade] at hnone'
      cases hnone'

end Extends

/-- A text is one of a place on the way to `p`. -/
def IsOnWay (text : String) (p : Path) : Prop :=
  (Path.ofText text).absolute = p.absolute ∧
    ∃ way, way <+: p.steps ∧
      ∀ (d : Disk) here, d.walk here (Path.ofText text).parts = d.walk here way

theorem isOnWay_self (text : String) : IsOnWay text (Path.ofText text) :=
  ⟨rfl, _, List.prefix_rfl, fun _ _ => (walk_steps _).symm⟩

theorem isOnWay_textOf {text : String} {part : String} {rest : List String}
    (h : part :: rest <+: (Path.ofText text).steps) :
    IsOnWay (Path.textOf (Path.ofText text).absolute (part :: rest)) (Path.ofText text) := by
  have hproper : ∀ q ∈ part :: rest, Path.IsPart q := fun q hq =>
    Path.isPart_of_mem_partsOf (Path.mem_parts_of_mem_steps (h.subset hq))
  refine ⟨Path.absolute_ofText_textOf _ (hproper part List.mem_cons_self), part :: rest, h, ?_⟩
  intro d here
  rw [Path.parts_ofText_textOf _ hproper]

theorem find_directory {d : Disk} {path : String} (h : d.find path = .ok .directory) :
    ∃ location, d.reach (Path.ofText path) = .ok location := by
  obtain ⟨p, hparse, h⟩ := exists_of_bind_eq_ok h
  obtain ⟨place, hlocate, h⟩ := exists_of_bind_eq_ok h
  rw [← Path.parse_eq_ofText hparse]
  rcases locate_cases hlocate with ⟨location, -, hreach⟩ |
    ⟨parts, last, here, rfl, hp, hdot, hdots, hwalk⟩
  · exact ⟨location, hreach⟩
  · obtain ⟨found, hentry, h⟩ := exists_of_bind_eq_ok h
    have hfound : found = some .directory := by
      cases found with
      | none => cases h
      | some n =>
        cases n with
        | directory => rfl
        | file content =>
          have h : (if p.slashEnded then .error .notADirectory else .ok (.file content) :
            Except IoError Node) = .ok .directory := h
          split at h
          · cases h
          · cases h
    rw [hfound] at hentry
    refine ⟨here ++ [last], ?_⟩
    show d.walk (d.start p) p.parts = _
    rw [hp, walk_append, hwalk]
    exact walk_directory hdot hdots hentry

/-- A directory that is made stands where its path leads. -/
theorem makeDirectory_eq_ok {d d' : Disk} {path : String} (h : d.makeDirectory path = .ok d') :
    ∃ location, location ≠ [] ∧ d.node? location = none ∧ d' = d.put location .directory ∧
      d'.reach (Path.ofText path) = .ok location := by
  obtain ⟨p, hparse, h⟩ := exists_of_bind_eq_ok h
  obtain ⟨place, hlocate, h⟩ := exists_of_bind_eq_ok h
  rw [← Path.parse_eq_ofText hparse]
  rcases locate_cases hlocate with ⟨location, rfl, -⟩ |
    ⟨parts, last, here, rfl, hp, hdot, hdots, hwalk⟩
  · cases h
  · obtain ⟨found, hentry, h⟩ := exists_of_bind_eq_ok h
    cases found with
    | some n => cases h
    | none =>
      obtain rfl := (Except.ok.inj h).symm
      have hne : here ++ [last] ≠ [] := by simp
      obtain ⟨hshort, hnone⟩ := entry?_eq_ok_iff.mp hentry
      have hmade : Disk.entry? (d.put (here ++ [last]) .directory) (here ++ [last]) =
          .ok (some .directory) :=
        entry?_eq_ok_iff.mpr ⟨hshort, node?_put_self hne d .directory⟩
      have hgrows : d.Grows (d.put (here ++ [last]) .directory) := put_grows (fun _ => rfl) hne
      refine ⟨here ++ [last], hne, hnone, rfl, ?_⟩
      show (d.put _ _).walk ((d.put _ _).start p) p.parts = _
      rw [hp, walk_append, hgrows.start_eq, hgrows.walk hwalk]
      exact walk_directory hdot hdots hmade

theorem makeDirectory_extends {d d' : Disk} {path : String} {p : Path} (hway : IsOnWay path p)
    (h : d.makeDirectory path = .ok d') : d.Extends p d' := by
  obtain ⟨location, hne, hnone, rfl, hreach⟩ := makeDirectory_eq_ok h
  refine ⟨rfl, fun other => ?_⟩
  by_cases heq : other = location
  · subst heq
    obtain ⟨habsolute, way, hprefix, hwalk⟩ := hway
    refine Or.inr ⟨hnone, node?_put_self hne d .directory, way, hprefix, ?_⟩
    rw [← hwalk]
    have hstart : ∀ e : Disk, e.start p = e.start (Path.ofText path) := by
      intro e
      show (if p.absolute then _ else _) = _
      rw [← habsolute]
      rfl
    rw [hstart]
    exact hreach
  · exact Or.inl (node?_put_of_ne heq d .directory)

theorem ensureDirectory_extends (d : Disk) {path : String} {p : Path} (hway : IsOnWay path p) :
    d.Extends p (d.ensureDirectory path).2 := by
  unfold ensureDirectory
  split
  · rename_i hmade
    exact makeDirectory_extends hway hmade
  · exact Extends.refl d p

theorem ensureDirectory_reaches {d : Disk} {path : String}
    (h : (d.ensureDirectory path).1 = .ok ()) :
    ∃ home, (d.ensureDirectory path).2.reach (Path.ofText path) = .ok home := by
  unfold ensureDirectory at h ⊢
  split at h
  · rename_i hmade
    obtain ⟨location, -, -, -, hreach⟩ := makeDirectory_eq_ok hmade
    exact ⟨location, hreach⟩
  · split at h
    · rename_i hdirectory
      refine find_directory ?_
      unfold isDirectory at hdirectory
      split at hdirectory
      · assumption
      · cases hdirectory
    · cases h

theorem ensureWithin_eq (d : Disk) (path : String)
    (around : Disk → Except IoError Unit × Disk) :
    d.ensureWithin path around = d.ensureDirectory path ∨
      d.ensureWithin path around = (around d).2.ensureDirectory path ∨
      ((around d).1 ≠ .ok () ∧ d.ensureWithin path around = around d) := by
  unfold ensureWithin
  split
  · split
    · rename_i hok
      rw [hok]
      exact Or.inr (Or.inl rfl)
    · rename_i hfailed
      refine Or.inr (Or.inr ⟨?_, rfl⟩)
      intro hok
      exact hfailed (around d).2 (Prod.ext hok rfl)
  · exact Or.inl rfl

theorem ensureWithin_extends (d : Disk) {path : String} {p : Path} (hway : IsOnWay path p)
    {around : Disk → Except IoError Unit × Disk} (haround : d.Extends p (around d).2) :
    d.Extends p (d.ensureWithin path around).2 := by
  rcases d.ensureWithin_eq path around with heq | heq | ⟨-, heq⟩
  · rw [heq]
    exact ensureDirectory_extends d hway
  · rw [heq]
    exact haround.trans (ensureDirectory_extends _ hway)
  · rw [heq]
    exact haround

theorem ensureSteps_extends {text : String} {above : List String}
    (h : above.reverse <+: (Path.ofText text).steps) (d : Disk) :
    d.Extends (Path.ofText text) (ensureSteps (Path.ofText text).absolute above d).2 := by
  induction above generalizing d with
  | nil => exact Extends.refl d _
  | cons last above ih =>
    have habove : above.reverse <+: (Path.ofText text).steps := by
      rw [List.reverse_cons] at h
      exact (List.prefix_append _ _).trans h
    obtain ⟨part, rest, hparts⟩ := List.exists_cons_of_ne_nil (List.reverse_ne_nil_iff.mpr
      (List.cons_ne_nil last above))
    have hway := h
    rw [hparts] at hway
    show d.Extends _ (d.ensureWithin (Path.textOf _ (last :: above).reverse) _).2
    rw [hparts]
    exact ensureWithin_extends d (isOnWay_textOf hway) (ih habove d)

/-- Making the directories of a path changes nothing but that directories on the way to it are
added, also where it fails. -/
theorem makeDirectories_extends (d : Disk) (path : String) :
    d.Extends (Path.ofText path) (d.makeDirectories path).2 := by
  unfold makeDirectories
  split
  · exact Extends.refl d _
  · refine ensureWithin_extends d (isOnWay_self path) (ensureSteps_extends ?_ d)
    rw [List.reverse_reverse]
    exact List.dropLast_prefix _

theorem makeDirectories_reaches {d : Disk} {path : String}
    (h : (d.makeDirectories path).1 = .ok ()) :
    ∃ home, (d.makeDirectories path).2.reach (Path.ofText path) = .ok home := by
  by_cases hempty : path = ""
  · subst hempty
    exact ⟨d.workingDirectory, rfl⟩
  · have hmake : d.makeDirectories path = d.ensureWithin path
        (ensureSteps (Path.ofText path).absolute (Path.ofText path).steps.dropLast.reverse) :=
      if_neg (by rwa [String.isEmpty_iff])
    rw [hmake] at h ⊢
    rcases d.ensureWithin_eq path (ensureSteps (Path.ofText path).absolute
      (Path.ofText path).steps.dropLast.reverse) with heq | heq | ⟨hfailed, heq⟩
    · rw [heq] at h ⊢
      exact ensureDirectory_reaches h
    · rw [heq] at h ⊢
      exact ensureDirectory_reaches h
    · rw [heq] at h
      exact absurd h hfailed

/-! ## Names within a directory -/

section Join

variable {d : Disk} {path name : String} {home : List String}

theorem locate_join (hreach : d.reach (Path.ofText path) = .ok home) (hname : IsComponent name) :
    d.locate (Path.ofText (Path.join path name)) = .ok (.entry (home ++ [name])) := by
  have hstart : d.start (Path.ofText (Path.join path name)) = d.start (Path.ofText path) := by
    show (if (Path.ofText (Path.join path name)).absolute then _ else _) = _
    rw [Path.absolute_join path hname]
    rfl
  have hwalk : d.walk (d.start (Path.ofText path)) (Path.ofText path).parts = .ok home := hreach
  rw [locate_name (Path.parts_join path hname) hname.2.1 hname.2.2.1, hstart, hwalk]
  rfl

theorem entry?_within {n : Option Node} :
    d.entry? (home ++ [name]) = .ok n ↔
      name.utf8ByteSize ≤ Path.nameLimit ∧ d.node? (home ++ [name]) = n := by
  rw [entry?_eq_ok_iff, List.getLast?_concat]
  simp

theorem read_join_eq (hreach : d.reach (Path.ofText path) = .ok home) (hname : IsComponent name) :
    d.read (Path.join path name) = (do
      let _ ← Path.parse (Path.join path name)
      match ← d.entry? (home ++ [name]) with
      | none => .error .notFound
      | some .directory => .error .isADirectory
      | some (.file content) => .ok content) := by
  have hlocate := locate_join hreach hname
  have hslash := Path.slashEnded_join path hname
  unfold read find
  cases hparse : Path.parse (Path.join path name) with
  | error e => rfl
  | ok p =>
    have hp := Path.parse_eq_ofText hparse
    subst hp
    simp only [bind, Except.bind, hlocate]
    cases d.entry? (home ++ [name]) with
    | error e => rfl
    | ok n =>
      cases n with
      | none => rfl
      | some n =>
        cases n with
        | directory => rfl
        | file content =>
          simp only [hslash]
          rfl

/-- What is read under a name in a directory is what the location with this name holds. -/
theorem read_join_iff (hreach : d.reach (Path.ofText path) = .ok home) (hname : IsComponent name)
    {content : ByteArray} :
    d.read (Path.join path name) = .ok content ↔
      (∃ p, Path.parse (Path.join path name) = .ok p) ∧ name.utf8ByteSize ≤ Path.nameLimit ∧
        d.node? (home ++ [name]) = some (.file content) := by
  rw [← entry?_within (n := some (.file content)), read_join_eq hreach hname]
  constructor
  · intro h
    obtain ⟨p, hparse, h⟩ := exists_of_bind_eq_ok h
    obtain ⟨n, hentry, h⟩ := exists_of_bind_eq_ok h
    refine ⟨⟨p, hparse⟩, ?_⟩
    cases n with
    | none => cases h
    | some n =>
      cases n with
      | directory => cases h
      | file found =>
        obtain rfl := Except.ok.inj h
        exact hentry
  · intro h
    obtain ⟨⟨p, hparse⟩, hentry⟩ := h
    rw [hparse, hentry]
    rfl

/-- Writing under a name in a directory sets the location with this name, which is no directory. -/
theorem write_join_eq_ok (hreach : d.reach (Path.ofText path) = .ok home)
    (hname : IsComponent name) {content : ByteArray} {d' : Disk}
    (h : d.write (Path.join path name) content = .ok d') :
    (∃ p, Path.parse (Path.join path name) = .ok p) ∧ name.utf8ByteSize ≤ Path.nameLimit ∧
      d.node? (home ++ [name]) ≠ some .directory ∧ d' = d.put (home ++ [name]) (.file content) := by
  obtain ⟨p, hparse, h⟩ := exists_of_bind_eq_ok h
  have hp := Path.parse_eq_ofText hparse
  subst hp
  obtain ⟨place, hlocate, h⟩ := exists_of_bind_eq_ok h
  rw [locate_join hreach hname] at hlocate
  obtain rfl := Except.ok.inj hlocate
  simp only at h
  rw [if_neg (by rw [Path.slashEnded_join path hname]; decide)] at h
  obtain ⟨n, hentry, h⟩ := exists_of_bind_eq_ok h
  obtain ⟨hshort, hnode⟩ := entry?_within.mp hentry
  refine ⟨⟨_, hparse⟩, hshort, ?_⟩
  rw [hnode]
  cases n with
  | none =>
    obtain rfl := Except.ok.inj h
    exact ⟨by simp, rfl⟩
  | some n =>
    cases n with
    | directory => cases h
    | file old =>
      obtain rfl := Except.ok.inj h
      exact ⟨by simp, rfl⟩

end Join

end Disk
end Facsimile
