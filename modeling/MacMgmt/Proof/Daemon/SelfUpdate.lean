import MacMgmt.Daemon.SelfUpdate
import MacMgmt.Proof.Daemon.UpdateTarget

/-!
# Restarts of the daemon

Until the restart, the install path of what was applied leads where its new binary does, since the link that was put there
is followed. After a restart with no change since, the watched file is the running one, so nothing is pending; an update that
leaves every file as it was would be of the store path that runs, which is not applied again.
-/

namespace MacMgmt.Proof.SelfUpdate
open Lib MacMgmt.Daemon

structure Sound (state : Updater) : Prop where
  placed : state.misdirected = false
  once : state.repeated = false
  lands : ∀ install storePath, state.applied = some (install, storePath) →
    state.files.tree.canonicalize install = state.files.tree.canonicalize (newBin storePath)
  settled : state.quiet = true → state.pending = false ∧
    ∃ target, (state.launch.installBinPath state.files).bind state.files.tree.canonicalize = some target ∧
      state.exe = absoluteText target

theorem sound_start (launch : Launch) (files : Files) (exe version : String) (marker : Option String) :
    Sound (.start launch files exe version marker) where
  placed := rfl
  once := rfl
  lands _ _ applied := by cases applied
  settled quiet := by cases quiet

theorem changed_eq_none {state : Updater} (sound : Sound state) (quiet : state.quiet = true) : state.changed = none := by
  obtain ⟨-, target, watched, running⟩ := sound.settled quiet
  unfold Updater.changed Launch.checkBinaryChanged
  rw [watched, running]
  simp

theorem Sound.steady {state : Updater} (sound : Sound state) : state.Steady :=
  ⟨sound.placed, sound.once, fun quiet => ⟨(sound.settled quiet).1, changed_eq_none sound quiet⟩⟩

/-! ## The new link -/

theorem createDirAll_keeps {tree made : FileTree} {start : FilePath} {way names : List String}
    (created : tree.createDirAll start way names = some made) : made.cwd = tree.cwd ∧ made.linkLimit = tree.linkLimit := by
  induction names generalizing tree way with
  | nil =>
      cases created
      exact ⟨rfl, rfl⟩
  | cons name rest ih =>
      unfold FileTree.createDirAll at created
      split at created
      · exact ih created
      · cases created
      · split at created
        · cases created
        · obtain ⟨cwd, limit⟩ := ih created
          exact ⟨cwd, limit⟩

theorem relink_some {launch : Launch} {files : Files} {storePath install : String} {entry : FilePath} {tree : FileTree}
    (relinked : launch.relink files storePath = some (install, entry, tree)) :
    ∃ made directory name, launch.installBinPath files = some install ∧ Launch.madeDirs files install = some made ∧
      made.place install = some (directory, name) ∧ entry = directory ++ [name] ∧
      tree = made.replaceLink entry (newBin storePath) := by
  unfold Launch.relink at relinked
  simp only [Option.bind_eq_bind, Option.bind_eq_some_iff] at relinked
  obtain ⟨path, found, -, -, made, dirs, ⟨directory, name⟩, placed, relinked⟩ := relinked
  split at relinked
  · cases relinked
  · cases relinked
    exact ⟨made, directory, name, found, dirs, placed, rfl, rfl⟩

theorem isDirectory_of_place {tree : FileTree} {text name : String} {directory : FilePath}
    (placed : tree.place text = some (directory, name)) : tree.isDirectory directory = true := by
  unfold FileTree.place at placed
  simp only [Option.bind_eq_bind, Option.bind_eq_some_iff] at placed
  obtain ⟨⟨way, last⟩, -, found, -, placed⟩ := placed
  split at placed
  · rename_i directory
    cases placed
    exact directory
  · cases placed

theorem isAbsolute_newBin {storePath : String} (valid : isValidStorePath storePath = true) :
    isAbsolute (newBin storePath) = true := by
  unfold isValidStorePath at valid
  split at valid
  · cases valid
  · rename_i rest found
    have shape := List.isPrefixOf?_eq_some_iff_append_eq.mp found
    unfold isAbsolute newBin
    rw [String.toList_append, ← shape]
    rfl

theorem not_running_of_checkAndApply {build : Build} {target : Target} {version storePath : String}
    (applies : checkAndApply build target = some (version, storePath)) : build.currentStorePath ≠ some storePath := by
  intro running
  obtain ⟨own, path⟩ := target
  obtain ⟨given, -, applies⟩ := Option.bind_eq_some_iff.mp applies
  split at applies
  · cases applies
  · obtain ⟨found, -, applies⟩ := Option.bind_eq_some_iff.mp applies
    obtain ⟨checked, same⟩ := Option.ite_none_right_eq_some.mp applies
    cases same
    simp [running] at checked

theorem lands_relink {state : Updater} {storePath install : String} {entry : FilePath} {tree : FileTree} (after : FileTree)
    (valid : isValidStorePath storePath = true) (lands : state.Lands storePath)
    (relinked : state.launch.relink state.files storePath = some (install, entry, tree))
    (contents : ∀ path, after.contentAt path = tree.contentAt path) (sameStart : after.cwd = state.files.tree.cwd)
    (sameLimit : after.linkLimit = state.files.tree.linkLimit) :
    ∃ found, after.canonicalize install = some found ∧ after.canonicalize (newBin storePath) = some found ∧
      (state.quiet = true → storePathPrefix state.files.tree (absoluteText found) = some storePath) := by
  obtain ⟨made, directory, name, path, dirs, placed, rfl, rfl⟩ := relink_some relinked
  obtain ⟨way, links, more, found, split, leads, reaches, bound, own⟩ := lands install made directory name path dirs placed
  obtain ⟨madeStart, madeLimit⟩ := createDirAll_keeps dirs
  have absolute := isAbsolute_newBin valid
  have kept : FileTree.Extends (made.erase (directory ++ [name])) after := by
    intro other content there
    rw [contents]
    exact FileTree.erase_extends_replaceLink _ _ other content there
  have linked : after.contentAt (directory ++ [name]) = some (.symlink (newBin storePath)) := by
    rw [contents, FileTree.contentAt_replaceLink, if_pos rfl]
  have isDirectory : after.isDirectory directory = true := by
    have before := isDirectory_of_place placed
    have apart : directory ≠ directory ++ [name] := by simp
    unfold FileTree.isDirectory at before ⊢
    rwa [contents, FileTree.contentAt_replaceLink, if_neg apart]
  have sameText : after.startOf install = made.startOf install := by
    unfold FileTree.startOf
    rw [sameStart, madeStart]
  rw [← sameText] at leads
  rw [← sameLimit] at bound
  refine ⟨found, FileTree.canonicalize_link split absolute isDirectory kept linked leads reaches bound, ?_, own⟩
  have given : newBin storePath ≠ "" := by
    intro empty
    rw [empty] at absolute
    cases absolute
  unfold FileTree.canonicalize
  rw [if_neg given, if_pos absolute]
  exact FileTree.resolve_extends kept (by omega) reaches

theorem sound_applyStorePath {state : Updater} {version storePath : String} {marks : Bool} (sound : Sound state)
    (applies : checkAndApply state.build state.target = some (version, storePath)) (lands : state.Lands storePath) :
    Sound (state.applyStorePath storePath marks) := by
  have valid := (UpdateTarget.checkAndApply_some applies).2
  unfold Updater.applyStorePath
  cases relinked : state.launch.relink state.files storePath with
  | none => exact sound
  | some result =>
      obtain ⟨install, entry, tree⟩ := result
      obtain ⟨made, directory, name, path, dirs, placed, rfl, shape⟩ := relink_some relinked
      obtain ⟨madeStart, madeLimit⟩ := createDirAll_keeps dirs
      have treeStart : tree.cwd = state.files.tree.cwd := by rw [shape]; exact madeStart
      have treeLimit : tree.linkLimit = state.files.tree.linkLimit := by rw [shape]; exact madeLimit
      cases same : tree.sameContents state.files.tree with
      | false =>
          obtain ⟨found, installed, reached, -⟩ :=
            lands_relink _ valid lands relinked (fun _ => rfl) treeStart treeLimit
          simp only [same, Bool.false_eq_true, if_false, Bool.and_false, Bool.false_and]
          exact {
            placed := sound.placed
            once := sound.once
            lands := by
              intro install' storePath' applied
              cases applied
              exact installed.trans reached.symm
            settled := nofun }
      | true =>
          have contents := FileTree.contentAt_eq_of_sameContents same
          obtain ⟨found, installed, reached, own⟩ :=
            lands_relink state.files.tree valid lands relinked (fun path => (contents path).symm) rfl rfl
          simp only [same, if_true, Bool.not_true, Bool.false_and, Bool.false_eq_true, if_false, Bool.and_true]
          exact {
            placed := sound.placed
            once := sound.once
            lands := by
              intro install' storePath' applied
              cases applied
              exact installed.trans reached.symm
            settled := by
              intro still
              have quiet : state.quiet = true := by
                simp only [Bool.and_eq_true] at still
                exact still.1
              obtain ⟨-, target, watched, running⟩ := sound.settled quiet
              rw [path, Option.bind_some, installed] at watched
              cases watched
              have current : state.build.currentStorePath = some storePath := by
                show storePathPrefix state.files.tree state.exe = some storePath
                rw [running]
                exact own quiet
              exact absurd current (not_running_of_checkAndApply applies) }

/-! ## The restart -/

theorem sound_restart {state : Updater} (sound : Sound state) (same : state.SamePlace) (changed : state.quiet = false) :
    Sound state.restart := by
  obtain ⟨path, target, executed, runs, watched, known, placed⟩ := same
  have found : state.launch.execTarget state.files = some target := by
    unfold Launch.execTarget
    rw [executed, Option.bind_some, runs]
  unfold Updater.restart
  rw [executed, found]
  exact {
    placed := by
      have right : (state.applied.any fun applied =>
          state.files.tree.canonicalize (newBin applied.2) ≠ some target) = false := by
        cases applied : state.applied with
        | none => rfl
        | some both =>
            obtain ⟨install, storePath⟩ := both
            have leads := placed install storePath applied
            rw [sound.lands install storePath applied] at leads
            simp [leads]
      show (state.misdirected || _) = false
      rw [sound.placed, right]
      rfl
    once := by
      show (state.repeated || state.quiet) = false
      rw [sound.once, changed]
      rfl
    lands := by
      intro install storePath applied
      cases applied
    settled := by
      intro _
      exact ⟨rfl, target, watched, known⟩ }

theorem sound_takeRestartExec {state : Updater} (sound : Sound state)
    (same : state.pending = true → state.SamePlace) : Sound state.takeRestartExec := by
  unfold Updater.takeRestartExec
  split
  · rename_i pending
    apply sound_restart sound (same pending)
    rw [Bool.eq_false_iff]
    intro quiet
    exact absurd ((sound.settled quiet).1.symm.trans pending) (by decide)
  · exact sound

theorem sound_check {state : Updater} (sound : Sound state) : Sound state.check where
  placed := sound.placed
  once := sound.once
  lands := sound.lands
  settled quiet := by
    obtain ⟨idle, running⟩ := sound.settled quiet
    constructor
    · show (state.pending || state.changed.isSome) = false
      rw [idle, changed_eq_none sound quiet]
      rfl
    · exact running

/-! ## Whole runs -/

theorem sound_step {state after : Updater} {event : UpdaterEvent} (sound : Sound state) (careful : state.Careful event)
    (taken : state.step event = some after) : Sound after := by
  unfold Updater.step at taken
  split at taken
  · cases taken
  · cases event with
    | change nodes program exe marker =>
        cases taken
        exact {
          placed := sound.placed
          once := sound.once
          lands := careful
          settled := nofun }
    | setTarget version storePath =>
        cases taken
        exact {
          placed := sound.placed
          once := sound.once
          lands := sound.lands
          settled := by
            intro quiet
            exact sound.settled (Bool.and_eq_true _ _ ▸ quiet).1 }
    | apply calls marks =>
        cases taken
        show Sound (state.update calls marks)
        unfold Updater.update
        split
        · exact sound
        · rename_i version storePath applies
          split
          · rename_i called
            exact sound_applyStorePath sound applies (careful called version storePath applies)
          · exact sound
    | tick =>
        cases taken
        apply sound_takeRestartExec (sound_check sound)
        intro pending
        apply careful
        have either : (state.pending || state.changed.isSome) = true := pending
        rw [Bool.or_eq_true] at either
        exact either.imp_right Option.isSome_iff_ne_none.mp
    | take =>
        cases taken
        exact sound_takeRestartExec sound careful

/-- What is executed after an update is its binary, and without a change there is one restart at most. -/
theorem always_steady (launch : Launch) (files : Files) (exe version : String) (marker : Option String)
    (events : List UpdaterEvent)
    (careful : Meets Updater.step Updater.Careful (.start launch files exe version marker) events) :
    Always Updater.step Updater.Steady (.start launch files exe version marker) events :=
  (always_of_meets (fun _ _ _ sound careful taken => sound_step sound careful taken)
    (sound_start launch files exe version marker) careful).imp fun _ sound => sound.steady

/-! ## Where the paths meet -/

theorem samePlace_of_absolute {state : Updater} {target : FilePath} (absolute : isAbsolute state.launch.argv0 = true)
    (outside : inStore state.launch.argv0 = false)
    (runs : Launch.runnable state.files state.launch.argv0 = some target) (resolves : state.launch.resolvesExe = true)
    (there : ∀ install storePath, state.applied = some (install, storePath) → install = state.launch.argv0) :
    state.SamePlace := by
  have leads : state.files.tree.canonicalize state.launch.argv0 = some target := (Option.filter_eq_some_iff.mp runs).1
  have slash : '/' ∈ state.launch.argv0.toList := List.mem_of_head? (of_decide_eq_true absolute)
  have joined : joinPath (absoluteText state.files.tree.cwd) state.launch.argv0 = state.launch.argv0 := by
    unfold joinPath
    rw [absolute]
    rfl
  have path : state.launch.installBinPath state.files = some state.launch.argv0 := by
    unfold Launch.installBinPath
    simp [joined, outside, leads]
  refine ⟨state.launch.argv0, target, ?_, runs, ?_, ?_, ?_⟩
  · unfold Launch.execPath
    rw [if_pos slash]
  · rw [path, Option.bind_some, leads]
  · unfold Launch.currentExe
    rw [resolves]
    rfl
  · intro install storePath applied
    rw [there install storePath applied, leads]

theorem expandTilde_of_ne {home : Option String} {entry : String} (plain : entry.toList.head? ≠ some '~') :
    Launch.expandTilde home entry = entry := by
  unfold Launch.expandTilde
  split
  · rename_i shape
    rw [shape] at plain
    exact absurd rfl plain
  · rename_i shape
    rw [shape] at plain
    exact absurd rfl plain
  · rfl

theorem samePlace_of_bare {state : Updater} {entries : List String} {path : String} {target : FilePath}
    (bare : state.launch.argv0 = "mac-mgmt") (searches : state.launch.searchPath = some entries)
    (plain : ∀ entry ∈ entries, entry.toList.head? ≠ some '~')
    (alone : state.files.tree.canonicalize (joinPath (absoluteText state.files.tree.cwd) "mac-mgmt") = none)
    (found : state.launch.which state.files = some path) (outside : inStore path = false)
    (runs : Launch.runnable state.files path = some target) (resolves : state.launch.resolvesExe = true)
    (there : ∀ install storePath, state.applied = some (install, storePath) → install = path) : state.SamePlace := by
  have leads : state.files.tree.canonicalize path = some target := (Option.filter_eq_some_iff.mp runs).1
  have watched : state.launch.installBinPath state.files = some path := by
    unfold Launch.installBinPath
    simp [bare, alone, found, outside, Option.filter]
  have executed : state.launch.execPath state.files = some path := by
    have candidates : (entries.map fun entry => joinPath (Launch.expandTilde state.launch.home entry) "mac-mgmt") =
        entries.map fun entry => joinPath entry "mac-mgmt" :=
      List.map_congr_left fun entry listed => by rw [expandTilde_of_ne (plain entry listed)]
    unfold Launch.which at found
    unfold Launch.execPath
    rw [searches, Option.getD_some, candidates] at found
    rw [bare, searches, if_neg (by decide), if_neg (by decide), Option.getD_some]
    exact found
  refine ⟨path, target, executed, runs, ?_, ?_, ?_⟩
  · rw [watched, Option.bind_some, leads]
  · unfold Launch.currentExe
    rw [resolves]
    rfl
  · intro install storePath applied
    rw [there install storePath applied, leads]

/-! ## Two installations -/

def directory : Node := ⟨.directory, true, none, 0⟩

def plainFile : Node := ⟨.file [], true, none, 0⟩

def linkTo (target : String) : Node := ⟨.symlink target, true, none, 0⟩

def package (name : String) (binary : Node) : List (FilePath × Node) :=
  [(["nix", "store", name], directory), (["nix", "store", name, "bin"], directory),
    (["nix", "store", name, "bin", "mac-mgmt"], binary)]

def tree (second : Node) (more : List (FilePath × Node)) : FileTree :=
  let entries := [(["nix"], directory), (["nix", "store"], directory), (["bin"], directory), (["work"], directory),
    (["bin", "mac-mgmt"], linkTo "/nix/store/a-one/bin/mac-mgmt")] ++ package "a-one" plainFile ++ package "b-two" second ++
    more
  ⟨(entries.map fun entry => ⟨entry.1, entry.2⟩).toAList, ["work"], 40⟩

def program (path : FilePath) : Option String :=
  if path = ["nix", "store", "a-one", "bin", "mac-mgmt"] then some "1.0.0"
  else if path = ["nix", "store", "b-two", "bin", "mac-mgmt"] then some "1.0.1"
  else none

def launched (argv0 : String) (second : Node) (more : List (FilePath × Node)) : Updater :=
  .start ⟨argv0, some ["/bin"], some "/home", true⟩ ⟨tree second more, program⟩ "/nix/store/a-one/bin/mac-mgmt" "1.0.0" none

def updates : List UpdaterEvent := [.setTarget "1.0.1" (some "/nix/store/b-two"), .apply true true, .tick]

theorem lands_installed : ((launched "/bin/mac-mgmt" plainFile []).setTarget "1.0.1" (some "/nix/store/b-two")).Lands
    "/nix/store/b-two" := by
  intro install made directory name path dirs placed
  have watched : some "/bin/mac-mgmt" = some install := path
  cases watched
  have same : some (tree plainFile []) = some made := dirs
  cases same
  have place : some (["bin"], "mac-mgmt") = some (directory, name) := (by decide : _ = _).trans placed
  cases place
  exact ⟨["", "bin"], 0, 0, ["nix", "store", "b-two", "bin", "mac-mgmt"], by decide, by decide, by decide, by decide, nofun⟩

def updated : Updater :=
  ((launched "/bin/mac-mgmt" plainFile []).setTarget "1.0.1" (some "/nix/store/b-two")).update true true

def restarted : Updater := updated.check.takeRestartExec.setTarget "1.0.1" (some "/nix/store/b-two")

theorem samePlace_updated : updated.check.SamePlace := by
  have runs : Launch.runnable updated.files "/bin/mac-mgmt" = some ["nix", "store", "b-two", "bin", "mac-mgmt"] := by decide
  apply samePlace_of_absolute (by decide) (by decide) runs (by decide)
  intro install storePath applied
  have same : some ("/bin/mac-mgmt", "/nix/store/b-two") = some (install, storePath) := (by decide : _ = _).trans applied
  cases same
  rfl

theorem always_steady_updated :
    Always Updater.step Updater.Steady (launched "/bin/mac-mgmt" plainFile []) (updates ++ updates) := by
  apply always_steady
  have applied : ((launched "/bin/mac-mgmt" plainFile []).setTarget "1.0.1" (some "/nix/store/b-two")).step
      (.apply true true) = some updated := rfl
  have first : updated.step .tick = some updated.check.takeRestartExec := by
    unfold Updater.step
    rw [if_neg (by decide)]
  have second : updated.check.takeRestartExec.step (.setTarget "1.0.1" (some "/nix/store/b-two")) = some restarted := by
    unfold Updater.step
    rw [if_neg (by decide)]
    rfl
  have third : restarted.step (.apply true true) = some restarted := by
    have idle : checkAndApply restarted.build restarted.target = none := by decide
    unfold Updater.step
    rw [if_neg (by decide)]
    show some (restarted.update true true) = some restarted
    unfold Updater.update
    rw [idle]
  refine (meets_cons_iff rfl).mpr ⟨trivial, (meets_cons_iff applied).mpr ⟨?_,
    (meets_cons_iff first).mpr ⟨?_, (meets_cons_iff second).mpr ⟨trivial, (meets_cons_iff third).mpr ⟨?_, ?_, fun _ _ => trivial⟩⟩⟩⟩⟩
  · intro _ version storePath applies
    have same : some ("1.0.1", "/nix/store/b-two") = some (version, storePath) := (by decide : _ = _).trans applies
    cases same
    exact lands_installed
  · intro _
    exact samePlace_updated
  · intro _ version storePath applies
    have idle : checkAndApply restarted.build restarted.target = none := by decide
    cases idle.symm.trans applies
  · intro moved
    exact absurd moved (by decide)

theorem not_steady_of_run {state : Updater} {events : List UpdaterEvent}
    (ends : (run Updater.step state events).any (fun final => final.misdirected || final.repeated) = true) :
    ∃ final, run Updater.step state events = some final ∧ ¬ final.Steady := by
  obtain ⟨final, ran, wrong⟩ := (Option.any_eq_true _ _).mp ends
  refine ⟨final, ran, fun steady => ?_⟩
  rw [steady.1, steady.2.1] at wrong
  cases wrong

/-- Started from the store, the daemon runs the old binary again; a file or a directory of its name in the working directory
is watched in its place; and a binary that is a link into another package is applied again. -/
theorem strays_and_repeats :
    (∃ final, run Updater.step (launched "/nix/store/a-one/bin/mac-mgmt" plainFile []) updates = some final ∧
      ¬ final.Steady) ∧
    (∃ final, run Updater.step (launched "mac-mgmt" plainFile [(["work", "mac-mgmt"], plainFile)]) updates = some final ∧
      ¬ final.Steady) ∧
    (∃ final, run Updater.step (launched "mac-mgmt" plainFile [(["work", "mac-mgmt"], directory)]) [.tick, .tick] =
      some final ∧ ¬ final.Steady) ∧
    ∃ final, run Updater.step (launched "/bin/mac-mgmt" (linkTo "/nix/store/a-one/bin/mac-mgmt") []) (updates ++ updates) =
      some final ∧ ¬ final.Steady :=
  ⟨not_steady_of_run (by decide +kernel), not_steady_of_run (by decide +kernel), not_steady_of_run (by decide +kernel),
    not_steady_of_run (by decide +kernel)⟩

end MacMgmt.Proof.SelfUpdate
