import Phrasebook.Project.Build
import Phrasebook.Proofs.Places
import Phrasebook.Proofs.Trial

/-!
# Where builds write

A source below the root of a project is built to the place below the target
that it has below the root, so such builds change no file outside the target.
A source anywhere else keeps its path, and its built text takes its place.
-/

namespace Phrasebook.Project

open Command
open Text (Source)

/-! ## Commands that change few files -/

/-- Every file that a command changes is at one of some places, whether the command fails or not.
The places are named from the current directory, which stays. -/
def ChangesOnly {α : Type} (current : List String) (places : List String → Prop)
    (command : Command α) : Prop :=
  ∀ session : Session, session.disk.current = current →
    (command.run.run session).2.disk.current = current ∧
      ∀ place, ¬places place →
        (command.run.run session).2.disk.fileAt? place = session.disk.fileAt? place

section ChangesOnly

variable {α β : Type} {current : List String} {places : List String → Prop}

theorem KeepsDisk.changesOnly {command : Command α} (keeps : KeepsDisk command) :
    ChangesOnly current places command := by
  intro session isCurrent
  rw [keeps session]
  exact ⟨isCurrent, fun _ _ => rfl⟩

theorem ChangesOnly.bind {command : Command α} {next : α → Command β}
    (first : ChangesOnly current places command)
    (rest : ∀ value, ChangesOnly current places (next value)) :
    ChangesOnly current places (command >>= next) := by
  intro session isCurrent
  have changed := first session isCurrent
  rcases run : command.run.run session with ⟨outcome, between⟩
  rw [run] at changed
  cases outcome with
  | error failure =>
      rw [run_bind_of_error run]
      exact changed
  | ok value =>
      rw [run_bind_of_ok run]
      obtain ⟨isCurrent, others⟩ := rest value between changed.1
      exact ⟨isCurrent, fun place outside => (others place outside).trans (changed.2 place outside)⟩

/-- What is read of the disk has the same current directory. -/
theorem changesOnly_disk_bind {next : Disk → Command β}
    (rest : ∀ disk : Disk, disk.current = current → ChangesOnly current places (next disk)) :
    ChangesOnly current places (disk >>= next) :=
  fun session isCurrent => rest session.disk isCurrent session isCurrent

theorem changesOnly_mapM {values : List α} {command : α → Command β}
    (each : ∀ value ∈ values, ChangesOnly current places (command value)) :
    ChangesOnly current places (values.mapM command) := by
  induction values with
  | nil => exact (keepsDisk_pure []).changesOnly
  | cons value values ih =>
      obtain ⟨first, others⟩ := List.forall_mem_cons.mp each
      rw [List.mapM_cons]
      exact first.bind fun _ => (ih others).bind fun _ => (keepsDisk_pure _).changesOnly

theorem changesOnly_writeText (noDots : ".." ∉ current) {path : Disk.Path}
    (isPlace : places (path.resolved current).parts) (text : String) :
    ChangesOnly current places (writeText path text) := by
  intro session isCurrent
  rw [disk_writeText]
  rw [← isCurrent] at noDots isPlace
  refine ⟨(Disk.write_cases noDots path _).1.trans isCurrent, fun place outside => ?_⟩
  refine Disk.fileAt?_write_of_ne noDots _ fun same => outside ?_
  exact same ▸ isPlace

end ChangesOnly

/-! ## Roots -/

section Roots

variable {environment : Settings.Environment} {path : String} {session between : Session}
  {project : Project}

theorem hasNames_expandHome (environment : Settings.Environment) {path : Disk.Path}
    (names : path.HasNames) : (expandHome environment path).HasNames := by
  unfold expandHome
  split
  · rename_i parts home isHome _
    split
    · exact names
    · refine (Disk.Path.hasNames_ofString home).join fun part partMem => names part ?_
      rw [isHome]
      exact List.mem_cons_of_mem _ partMem
  · exact names

theorem hasNames_settingsPath {disk : Disk} (names : ∀ name ∈ disk.current, Disk.IsName name)
    {path : Disk.Path} (pathNames : path.HasNames) : (settingsPath disk path).HasNames := by
  unfold settingsPath
  dsimp only
  refine Disk.Path.HasNames.resolved ?_ names
  split_ifs
  · exact pathNames.join (Disk.Path.hasNames_ofString _)
  · exact pathNames
  · exact pathNames.parent.join (Disk.Path.hasNames_ofString _)

/-- The root of a project is the directory of its settings file. -/
theorem root_of_ofPath {disk : Disk} {path : Disk.Path}
    (done : Project.ofPath disk environment path = .ok project) :
    project.root = (settingsPath disk path).parent := by
  unfold Project.ofPath at done
  dsimp only at done
  split at done
  on_goal 1 => split at done
  on_goal 2 => split at done
  all_goals
    obtain ⟨document, _, done⟩ := bind_eq_ok_iff.mp done
    obtain ⟨settings, _, done⟩ := bind_eq_ok_iff.mp done
    obtain rfl := Except.ok.inj done
    rfl

/-- The root of a project that was found is a proper path. -/
theorem hasNames_root_of_load (names : ∀ name ∈ session.disk.current, Disk.IsName name)
    (done : (load environment path).run.run session = (.ok project, between)) :
    project.root.HasNames := by
  obtain ⟨disk, _, isDisk, done⟩ := Book.run_bind_eq_ok_iff.mp done
  cases isDisk
  dsimp only at done
  split at done
  · obtain ⟨_, _, failed, _⟩ := Book.run_bind_eq_ok_iff.mp done
    cases failed
  · obtain ⟨found, _, isProject, done⟩ := Book.run_bind_eq_ok_iff.mp done
    obtain ⟨_, _, _, done⟩ := Book.run_bind_eq_ok_iff.mp done
    cases done
    rw [root_of_ofPath (Book.run_orFail_eq_ok isProject)]
    refine Disk.Path.HasNames.parent (hasNames_settingsPath names ?_)
    exact (hasNames_expandHome environment (Disk.Path.hasNames_ofString path)).resolved names

end Roots

/-! ## Builds -/

/-- The names that lead from the root of a project to a file, which lies below it. -/
def LeadsTo (current : List String) (project : Project) (file : String)
    (parts : List String) : Prop :=
  parts ≠ [] ∧
    Disk.Path.below? (project.root.resolved current) ((project.pathOf file).resolved current) =
      some parts

/-- A place below the target, where the same names lead to it as from the root of the project to
one of some files. -/
def IsMirrored (current : List String) (project : Project) (target : Disk.Path)
    (files : List String) (place : List String) : Prop :=
  ∃ file ∈ files, ∃ parts, LeadsTo current project file parts ∧
    place = (target.resolved current).parts ++ parts

section Builds

variable {current : List String} {project : Project} {target : Disk.Path} {files : List String}

/-- A file below the root is built to the path that the same names lead to from the target. -/
theorem resolved_join_relative (names : ∀ name ∈ current, Disk.IsName name)
    (rootNames : project.root.HasNames) {file : String} {parts : List String}
    (leads : LeadsTo current project file parts) :
    ((target.join (Disk.Path.ofString
      (Disk.Path.relative current project.root (project.pathOf file)))).resolved current).parts =
        (target.resolved current).parts ++ parts := by
  obtain ⟨_, isBelow⟩ := leads
  have whole := Disk.Path.parts_of_below? isBelow
  have partMem {part : String} (isPart : part ∈ parts) :
      part ∈ ((project.pathOf file).resolved current).parts :=
    whole ▸ List.mem_append_right _ isPart
  have partNames : ∀ part ∈ parts, Disk.IsName part := by
    have pathNames : (project.pathOf file).HasNames :=
      rootNames.join (Disk.Path.hasNames_ofString file)
    exact fun part isPart => pathNames.resolved names part (partMem isPart)
  -- The names are those of a path that has been resolved already.
  have noDots : ".." ∉ parts := by
    intro isPart
    have isLeft := partMem isPart
    rw [Disk.Path.parts_resolved] at isLeft
    exact (Disk.Path.mem_cancelled isLeft).2 rfl
  rw [Disk.Path.relative, isBelow]
  dsimp only
  rw [Disk.Path.ofString_written partNames, Disk.Path.parts_resolved_join current target noDots]

theorem keepsDisk_bookForBuild (project : Project) : KeepsDisk project.bookForBuild := by
  unfold bookForBuild
  dsimp only
  split
  · exact keepsDisk_pure _
  · refine keepsDisk_disk.bind fun disk => ?_
    split
    · exact keepsDisk_throw_bind _ _
    · refine (keepsDisk_readBook project).bind fun (book, _) => ?_
      exact (keepsDisk_say _ _ _).bind fun _ => keepsDisk_pure _

theorem keepsDisk_buildSource (options : Build.BuildOptions) (origin : Phrase.Origin) :
    KeepsDisk (buildSource options origin) := by
  refine KeepsDisk.bind ?_ fun _ => ?_
  · exact (keepsDisk_orFail _ _).bind fun _ => (keepsDisk_say _ _ _).bind fun _ => keepsDisk_pure _
  · refine (keepsDisk_orFail _ _).bind fun edits => ?_
    exact (keepsDisk_say _ _ _).bind fun _ => keepsDisk_orFail _ _

theorem changesOnly_buildFile (names : ∀ name ∈ current, Disk.IsName name)
    (noDots : ".." ∉ current) (rootNames : project.root.HasNames) {file : String}
    (fileMem : file ∈ files) {parts : List String} (leads : LeadsTo current project file parts)
    (book? : Option Book) :
    ChangesOnly current (IsMirrored current project target files)
      (buildFile project book? target file) := by
  refine changesOnly_disk_bind fun disk isCurrent => ?_
  refine (keepsDisk_readFile _).changesOnly.bind fun source => ?_
  have writes (output : String) {path : Disk.Path} (isPath : path = target.join (Disk.Path.ofString
      (Disk.Path.relative disk.current project.root (project.pathOf file)))) :
      ChangesOnly current (IsMirrored current project target files)
        (writeText path output >>= fun _ => pure path) := by
    refine (changesOnly_writeText noDots ?_ output).bind fun _ => (keepsDisk_pure _).changesOnly
    rw [isPath, isCurrent]
    exact ⟨file, fileMem, parts, leads, resolved_join_relative names rootNames leads⟩
  dsimp only
  split
  · exact (keepsDisk_orFail _ _).changesOnly.bind fun output => writes output rfl
  · exact (keepsDisk_buildSource _ _).changesOnly.bind fun output => writes output rfl

end Builds

/-- The directory that a project is built into. -/
def targetOf (project : Project) (target? : Option Disk.Path) : Disk.Path :=
  target?.getD (project.pathOf buildDirectory)

section Runs

variable {environment : Settings.Environment} {path : String} {files : List String}
  {target? : Option Disk.Path} {session : Session}

/-- Building files below the root changes no file but those that mirror them below the target,
whether it fails or not. -/
theorem isMirrored_of_changed
    (names : ∀ name ∈ session.disk.current, Disk.IsName name) (noDots : ".." ∉ session.disk.current)
    (inside : ∀ project between,
      (load environment path).run.run session = (.ok project, between) →
        ∀ file ∈ files, ∃ parts, LeadsTo session.disk.current project file parts)
    {place : List String}
    (changed : ((build environment path files target?).run.run session).2.disk.fileAt? place ≠
      session.disk.fileAt? place) :
    ∃ project between, (load environment path).run.run session = (.ok project, between) ∧
      IsMirrored session.disk.current project (targetOf project target?) files place := by
  have kept := keepsDisk_load environment path session
  rcases run : (load environment path).run.run session with ⟨outcome, between⟩
  rw [run] at kept
  unfold build at changed
  cases outcome with
  | error failure =>
      rw [run_bind_of_error run, kept] at changed
      contradiction
  | ok project =>
      refine ⟨project, between, rfl, ?_⟩
      have rootNames := hasNames_root_of_load names run
      -- A build that fails leaves the files that it has written, so nothing is said of outcomes.
      by_contra outside
      have unchanged {command : Command (List Disk.Path)}
          (only : ChangesOnly session.disk.current
            (IsMirrored session.disk.current project (targetOf project target?) files) command) :
          (command.run.run between).2.disk.fileAt? place = session.disk.fileAt? place := by
        rw [← kept] at only ⊢
        exact (only between rfl).2 place (kept ▸ outside)
      rw [run_bind_of_ok run] at changed
      refine changed (unchanged ?_)
      refine (keepsDisk_bookForBuild project).changesOnly.bind fun book? => ?_
      refine ChangesOnly.bind (changesOnly_mapM fun file fileMem => ?_) fun _ => ?_
      · obtain ⟨parts, leads⟩ := inside project between run file fileMem
        exact changesOnly_buildFile names noDots rootNames fileMem leads book?
      · exact ((keepsDisk_say _ _ _).bind fun _ => keepsDisk_pure _).changesOnly

theorem isBelow_of_changed
    (names : ∀ name ∈ session.disk.current, Disk.IsName name) (noDots : ".." ∉ session.disk.current)
    (inside : ∀ project between,
      (load environment path).run.run session = (.ok project, between) →
        ∀ file ∈ files, ∃ parts, LeadsTo session.disk.current project file parts)
    {place : List String}
    (changed : ((build environment path files target?).run.run session).2.disk.fileAt? place ≠
      session.disk.fileAt? place) :
    ∃ project between, (load environment path).run.run session = (.ok project, between) ∧
      (session.disk.resolve (targetOf project target?)).parts <+: place ∧
      place ≠ (session.disk.resolve (targetOf project target?)).parts := by
  obtain ⟨project, between, isLoaded, _, _, parts, ⟨present, _⟩, rfl⟩ :=
    isMirrored_of_changed names noDots inside changed
  exact ⟨project, between, isLoaded, List.prefix_append _ _, by simpa [Disk.resolve] using present⟩

/-- A source below the root of a project is built without a change to any file outside the
directory that the project is built into. -/
theorem isBelow_of_changed_source :
    let session : Session := { disk := {
      files := [(["p", "src", "a.jsx"], Source.ofString "x=<T>foo</T>")]
      directories := [["p"], ["p", "src"]] } }
    let last := ((build [] "/p" ["src/a.jsx"] none).run.run session).2
    last.disk.fileAt? ["p", "build", "jsxlate", "src", "a.jsx"] =
        some (Source.ofString "x=<T k=\"e5410e122e8c\" deps=\x7b[]\x7d>foo</T>") ∧
      ∀ place, last.disk.fileAt? place ≠ session.disk.fileAt? place →
        ["p", "build", "jsxlate"] <+: place ∧ place ≠ ["p", "build", "jsxlate"] := by
  intro session last
  have isLoaded : ((load [] "/p").run.run session).1.toOption.map
      (fun project => ((session.disk.resolve (targetOf project none)).parts,
        Disk.Path.below? (project.root.resolved []) ((project.pathOf "src/a.jsx").resolved []))) =
        some (["p", "build", "jsxlate"], some ["src", "a.jsx"]) := by
    decide +kernel
  have facts {project : Project} {between : Session}
      (done : (load [] "/p").run.run session = (.ok project, between)) := by
    rw [done] at isLoaded
    exact Prod.mk.inj (Option.some.inj isLoaded)
  refine ⟨by decide +kernel, fun place changed => ?_⟩
  obtain ⟨project, between, done, isBelow⟩ :=
    isBelow_of_changed (List.forall_mem_nil _) List.not_mem_nil
      (fun project between done => List.forall_mem_singleton.mpr
        ⟨_, List.cons_ne_nil _ _, (facts done).2⟩) changed
  rwa [(facts done).1] at isBelow

/-- The built text of a source beside the root takes the place of the source. -/
theorem fileAt?_build_beside_root :
    let place := ["shared.jsx"]
    let session : Session := { disk := {
      files := [(place, Source.ofString "x=<T>foo</T>")], directories := [["p"]] } }
    ((build [] "/p" ["../shared.jsx"] none).run.run session).2.disk.fileAt? place =
      some (Source.ofString "x=<T k=\"e5410e122e8c\" deps=\x7b[]\x7d>foo</T>") := by
  intro place session
  decide +kernel

end Runs

end Phrasebook.Project
