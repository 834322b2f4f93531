import MacMgmt.Agent.NixProfile

/-!
# What an install removes

A run of `profile_install` keeps the elements of the profile, except those of the package and those that conflict with it, exactly if
the names that it goes by belong to such elements; `is_installed` goes by names and store paths.
-/

namespace MacMgmt.Proof.NixProfile
open Lib MacMgmt.Agent.Nix

section
variable {packages : Packages} {pkg base : String} {start profile : Profile}

def Conflicts (packages : Packages) (pkg : String) (element : Element) : Prop :=
  ∃ file ∈ element.files, file ∈ packages.provides pkg

def Replaceable (packages : Packages) (pkg : String) (element : Element) : Prop :=
  element.package = some pkg ∨ Conflicts packages pkg element

/-- The other elements are still there, under their names and of their packages. -/
def Keeps (packages : Packages) (pkg : String) (start profile : Profile) : Prop :=
  ∀ name element, start.lookup name = some element →
    Replaceable packages pkg element ∨ ∃ after, profile.lookup name = some after ∧ after.package = element.package

def Given (packages : Packages) (pkg : String) (start : Profile) (name : String) : Prop :=
  ∀ element, start.lookup name = some element → Replaceable packages pkg element

def machine (packages : Packages) (pkg : String) (start : Profile) : Machine Profile NixAction NixOutcome :=
  ⟨perform, Allowed packages, Keeps packages pkg start⟩

/-! ## One command -/

theorem keeps_start : Keeps packages pkg start start := fun _ element found => .inr ⟨element, found, rfl⟩

theorem Keeps.erase (keeps : Keeps packages pkg start profile) {name : String} (given : Given packages pkg start name) :
    Keeps packages pkg start (profile.erase name) := by
  intro other element found
  rw [Table.lookup_erase_ite]
  by_cases same : other = name
  · exact .inl (given element (same ▸ found))
  · rw [if_neg same]
    exact keeps other element found

theorem given_of_erase {name : String} (keeps : Keeps packages pkg start (profile.erase name)) :
    Given packages pkg start name := by
  intro element found
  rcases keeps name element found with replaceable | ⟨after, left, -⟩
  · exact replaceable
  · rw [Table.lookup_erase_ite, if_pos rfl] at left
    cases left

theorem Keeps.insert (keeps : Keeps packages pkg start profile) {name : String} (fresh : name ∉ profile) (added : Element) :
    Keeps packages pkg start (profile.insert name added) := by
  intro other element found
  rw [Table.lookup_insert_ite]
  by_cases same : other = name
  · rcases keeps other element found with replaceable | ⟨after, left, -⟩
    · exact .inl replaceable
    · exact absurd (AList.lookup_isSome.mp (by rw [left]; rfl)) (same ▸ fresh)
  · rw [if_neg same]
    exact keeps other element found

theorem Keeps.modify (keeps : Keeps packages pkg start profile) {name : String} {changed : Element}
    (given : Given packages pkg start name ∨ ∀ old, profile.lookup name = some old → changed.package = old.package) :
    Keeps packages pkg start (profile.modify name fun _ => changed) := by
  intro other element found
  rw [Table.lookup_modify]
  by_cases same : other = name
  · subst same
    rw [if_pos rfl]
    rcases given with given | sameAttr
    · exact .inl (given element found)
    · refine (keeps other element found).imp_right ?_
      rintro ⟨after, left, attr⟩
      exact ⟨changed, by rw [left]; rfl, (sameAttr after left).trans attr⟩
  · rw [if_neg same]
    exact keeps other element found

theorem given_of_replace {name : String} {changed : Element} (of : changed.package = some pkg)
    (keeps : Keeps packages pkg start (start.modify name fun _ => changed)) : Given packages pkg start name := by
  intro element found
  rcases keeps name element found with replaceable | ⟨after, left, attr⟩
  · exact replaceable
  · rw [Table.lookup_modify, if_pos rfl, found] at left
    obtain rfl := Option.some.inj left
    exact .inl (attr ▸ of)

def Proper (packages : Packages) (pkg : String) (start : Profile) : NixAction → Prop
  | .remove name | .replace name _ => Given packages pkg start name
  | _ => True

theorem Keeps.perform (keeps : Keeps packages pkg start profile) {action : NixAction} (proper : Proper packages pkg start action)
    {outcome : NixOutcome} (allowed : Allowed packages profile action outcome) :
    Keeps packages pkg start (perform profile action outcome) := by
  cases action with
  | list | build | probeReplace => exact keeps
  | add flakeRef =>
      cases outcome with
      | element name element => exact keeps.insert allowed.1 element
      | _ => exact keeps
  | remove name =>
      cases outcome with
      | removed => exact keeps.erase proper
      | _ => exact keeps
  | upgrade name =>
      cases outcome with
      | element _ element => exact keeps.modify (.inr allowed)
      | _ => exact keeps
  | replace name flakeRef =>
      cases outcome with
      | element _ element => exact keeps.modify (.inl proper)
      | _ => exact keeps

/-! ## Whole runs -/

theorem holds_of_proper {A : Type} {script : NixRun A} (asks : script.Asks (Proper packages pkg start))
    (keeps : Keeps packages pkg start profile) : script.Holds (machine packages pkg start) (fun _ _ => True) profile := by
  have kept : script.Holds (machine packages pkg start) (fun _ after => Keeps packages pkg start after) profile :=
    Script.holds_of_asks (fun _ _ _ keeps proper allowed => Keeps.perform keeps proper allowed) asks keeps
  exact kept.imp fun _ _ _ => trivial

theorem asks_done {A : Type} {result : A} : (Script.done result : NixRun A).Asks (Proper packages pkg start) := trivial

theorem asks_runProfileCmd {action name : String} {command : NixAction} (proper : Proper packages pkg start command) :
    (runProfileCmd action name command).Asks (Proper packages pkg start) := by
  refine ⟨proper, fun outcome => ?_⟩
  cases outcome <;> trivial

theorem asks_removeElements {names : List String} (given : ∀ name ∈ names, Given packages pkg start name) :
    (removeElements names).Asks (Proper packages pkg start) := by
  induction names with
  | nil => trivial
  | cons name rest ih =>
      obtain ⟨first, later⟩ := List.forall_mem_cons.mp given
      exact Script.asks_bind (asks_runProfileCmd first) fun _ => ih later

theorem asks_profileListJson : profileListJson.Asks (Proper packages pkg start) := by
  refine ⟨trivial, fun outcome => ?_⟩
  cases outcome <;> trivial

theorem asks_installedElements : installedElements.Asks (Proper packages pkg start) :=
  Script.asks_bind asks_profileListJson fun result => by cases result <;> exact asks_done

theorem asks_profileOriginalUrls : profileOriginalUrls.Asks (Proper packages pkg start) :=
  Script.asks_bind asks_profileListJson fun result => by cases result <;> exact asks_done

/-- The names that an install goes by when it runs into a conflict are those of elements that it may remove. -/
structure Targeted (packages : Packages) (pkg : String) (start : Profile) (err : String) : Prop where
  named : ∀ name, parseConflictingPackage err = some name → name ≠ pkg → Given packages pkg start name
  own : Given packages pkg start pkg
  related : ∀ base, parseConflictingStoreBase err = some base →
    ∀ name, name ≠ pkg → contains name base = true → Given packages pkg start name

theorem mem_relatedElements {base name : String} {elements : List String} :
    name ∈ relatedElements pkg base elements ↔ name ∈ elements ∧ name ≠ pkg ∧ contains name base = true := by
  rw [relatedElements, List.mem_filter, Bool.and_eq_true, decide_eq_true_eq]

theorem asks_removeConflicting {err : String} (targeted : Targeted packages pkg start err) :
    (removeConflicting err pkg).Asks (Proper packages pkg start) := by
  refine Script.asks_bind (asks_removeElements fun name member => ?_) fun _ => ?_
  · obtain ⟨parsed, other⟩ := List.mem_filter.mp member
    exact targeted.named name (Option.mem_toList.mp parsed) (of_decide_eq_true other)
  refine Script.asks_bind (asks_removeElements fun name member => ?_) fun _ => ?_
  · exact List.mem_singleton.mp member ▸ targeted.own
  cases parsed : parseConflictingStoreBase err with
  | none => trivial
  | some base =>
      refine Script.asks_bind asks_installedElements fun elements => asks_removeElements fun name member => ?_
      obtain ⟨-, other, within⟩ := mem_relatedElements.mp member
      exact targeted.related base parsed name other within

theorem asks_reinstall (given : Given packages pkg start pkg) : (reinstall base pkg).Asks (Proper packages pkg start) := by
  have built : (preBuildPackage pkg ⟨base, pkg⟩).Asks (Proper packages pkg start) := by
    refine ⟨trivial, fun outcome => ?_⟩
    cases outcome <;> trivial
  refine Script.asks_bind built fun result => ?_
  cases result with
  | error e => exact asks_done
  | ok =>
      refine Script.asks_bind (asks_runProfileCmd given) fun result => ?_
      cases result with
      | error e => exact asks_done
      | ok => exact asks_runProfileCmd trivial

theorem asks_upgradeInstalled (given : Given packages pkg start pkg) :
    (upgradeInstalled base pkg).Asks (Proper packages pkg start) := by
  refine Script.asks_bind asks_profileOriginalUrls fun urls => ?_
  split_ifs
  · exact asks_runProfileCmd trivial
  · have probed : hasReplaceSupport.Asks (Proper packages pkg start) := by
      refine ⟨trivial, fun outcome => ?_⟩
      cases outcome <;> trivial
    refine Script.asks_bind probed fun supported => ?_
    split_ifs
    · exact asks_runProfileCmd given
    · exact asks_reinstall given

theorem asks_afterFailure {err : String} (targeted : contains err "already provides" = true → Targeted packages pkg start err) :
    (afterFailure base pkg err).Asks (Proper packages pkg start) := by
  rw [afterFailure]
  split_ifs with conflict
  · exact Script.asks_bind (asks_removeConflicting (targeted conflict)) fun _ => asks_runProfileCmd trivial
  · exact asks_done

theorem calm_spawnError : contains (spawnError "install") "already provides" = false := by decide +kernel

theorem holds_installNew
    (targeted : ∀ stderr, packages.reports start pkg stderr →
      contains (commandError "install" pkg stderr) "already provides" = true →
        Targeted packages pkg start (commandError "install" pkg stderr)) :
    (installNew base pkg).Holds (machine packages pkg start) (fun _ _ => True) start := by
  intro outcome allowed
  have proper : Proper packages pkg start (.add ⟨base, pkg⟩) := trivial
  have keeps : Keeps packages pkg start (perform start (.add ⟨base, pkg⟩) outcome) := keeps_start.perform proper allowed
  refine ⟨keeps, ?_⟩
  cases outcome with
  | failed stderr =>
      change (afterFailure base pkg (commandError "install" pkg stderr)).Holds _ _ start
      have reported : packages.reports start pkg stderr := allowed
      exact holds_of_proper (asks_afterFailure (targeted stderr reported)) keeps_start
  | unrunnable =>
      change (afterFailure base pkg (spawnError "install")).Holds _ _ start
      have asks : (afterFailure base pkg (spawnError "install")).Asks (Proper packages pkg start) := by
        rw [afterFailure, calm_spawnError, if_neg Bool.false_ne_true]
        exact asks_done
      exact holds_of_proper asks keeps_start
  | listed | element | removed | unchanged | supported => trivial

/-! ## The names that decide -/

theorem keeps_of_removeElements {names : List String} {post : Unit → Profile → Prop}
    (holds : (removeElements names).Holds (machine packages pkg start) post profile) :
    (∀ name ∈ names, Keeps packages pkg start (profile.erase name)) ∧ post () profile := by
  induction names with
  | nil => exact ⟨nofun, holds⟩
  | cons name names ih =>
      obtain ⟨erased, -⟩ := holds .removed trivial
      obtain ⟨-, onward⟩ := holds .unrunnable trivial
      obtain ⟨later, after⟩ := ih onward
      exact ⟨List.forall_mem_cons.mpr ⟨erased, later⟩, after⟩

theorem elementsOf_perm {json : JsonValue} (lists : Lists profile json) :
    (elementsOf json).Perm (profile.entries.map fun entry => (entry.1, entry.2.json)) := by
  obtain ⟨elements, shown, perm⟩ := lists
  rw [elementsOf, shown]
  exact perm

theorem mem_elementsOf {json : JsonValue} (lists : Lists profile json) {name : String} {shown : JsonValue} :
    (name, shown) ∈ elementsOf json ↔ ∃ element, profile.lookup name = some element ∧ shown = element.json := by
  rw [(elementsOf_perm lists).mem_iff, List.mem_map]
  constructor
  · rintro ⟨⟨other, element⟩, member, same⟩
    obtain ⟨rfl, rfl⟩ := Prod.mk.inj same
    exact ⟨element, AList.mem_lookup_iff.mpr member, rfl⟩
  · rintro ⟨element, found, rfl⟩
    exact ⟨⟨name, element⟩, AList.mem_lookup_iff.mp found, rfl⟩

theorem exists_listing (profile : Profile) : ∃ json, Lists profile json :=
  ⟨.object [("elements", .object (profile.entries.map fun entry => (entry.1, entry.2.json)))], _, rfl, .refl _⟩

theorem targeted_of_removeConflicting {err : String} {post : Unit → Profile → Prop}
    (holds : (removeConflicting err pkg).Holds (machine packages pkg start) post start) : Targeted packages pkg start err := by
  obtain ⟨first, holds⟩ := keeps_of_removeElements (Script.holds_bind_iff.mp holds)
  obtain ⟨second, holds⟩ := keeps_of_removeElements (Script.holds_bind_iff.mp holds)
  refine ⟨fun name parsed other => ?_, ?_, fun base parsed name other within element found => ?_⟩
  · exact given_of_erase (first name (List.mem_filter.mpr ⟨Option.mem_toList.mpr parsed, decide_eq_true other⟩))
  · exact given_of_erase (second pkg (List.mem_singleton.mpr rfl))
  · rw [parsed] at holds
    obtain ⟨json, lists⟩ := exists_listing start
    obtain ⟨-, holds⟩ := holds (.listed json) lists
    have listed : name ∈ relatedElements pkg base ((elementsOf json).map Prod.fst) :=
      mem_relatedElements.mpr ⟨List.mem_map.mpr ⟨_, (mem_elementsOf lists).mpr ⟨element, found, rfl⟩, rfl⟩, other, within⟩
    exact given_of_erase ((keeps_of_removeElements holds).1 name listed) element found

theorem given_of_upgradeInstalled {post : Except String Unit → Profile → Prop}
    (holds : (upgradeInstalled base pkg).Holds (machine packages pkg start) post start) : Given packages pkg start pkg := by
  obtain ⟨-, holds⟩ := holds .unrunnable trivial
  obtain ⟨-, holds⟩ := holds (.supported true) trivial
  obtain ⟨keeps, -⟩ := holds (.element pkg ⟨some pkg, none, [], []⟩) rfl
  exact given_of_replace rfl keeps

theorem targeted_of_afterFailure {err : String} {post : Except String Unit → Profile → Prop}
    (holds : (afterFailure base pkg err).Holds (machine packages pkg start) post start)
    (conflict : contains err "already provides" = true) : Targeted packages pkg start err := by
  rw [afterFailure, if_pos conflict] at holds
  exact targeted_of_removeConflicting (Script.holds_bind_iff.mp holds)

theorem targeted_of_installNew {post : Except String Unit → Profile → Prop}
    (holds : (installNew base pkg).Holds (machine packages pkg start) post start) {stderr : String}
    (reported : packages.reports start pkg stderr)
    (conflict : contains (commandError "install" pkg stderr) "already provides" = true) :
    Targeted packages pkg start (commandError "install" pkg stderr) := by
  have after : (afterFailure base pkg (commandError "install" pkg stderr)).Holds (machine packages pkg start) post start :=
    (holds (.failed stderr) reported).2
  exact targeted_of_afterFailure after conflict

/-! ## What is installed -/

def HasPackage (pkg : String) (profile : Profile) : Prop :=
  ∃ name element, profile.lookup name = some element ∧ element.package = some pkg

/-- The name of the element is that of the package, or a store path contains it. -/
def Matches (pkg name : String) (element : Element) : Prop :=
  name = pkg ∨ ∃ path ∈ element.storePaths, contains path pkg = true

theorem storePathsOf_json (element : Element) : storePathsOf element.json = element.storePaths := by
  have shown : element.json.field "storePaths" = some (.array (element.storePaths.map .string)) := by
    cases url : element.originalUrl <;> simp [Element.json, url, JsonValue.field, List.lookup_cons]
  rw [storePathsOf, shown, Option.bind_some, JsonValue.asArray, Option.getD_some, List.filterMap_map]
  exact List.filterMap_some

theorem isInstalledIn_iff {json : JsonValue} (lists : Lists profile json) :
    isInstalledIn json pkg = true ↔ ∃ name element, profile.lookup name = some element ∧ Matches pkg name element := by
  rw [isInstalledIn, Bool.or_eq_true, List.any_eq_true, List.any_eq_true]
  constructor
  · rintro (⟨⟨name, shown⟩, member, same⟩ | ⟨⟨name, shown⟩, member, within⟩)
    · obtain ⟨element, found, -⟩ := (mem_elementsOf lists).mp member
      exact ⟨name, element, found, .inl (of_decide_eq_true same)⟩
    · obtain ⟨element, found, rfl⟩ := (mem_elementsOf lists).mp member
      rw [storePathsOf_json] at within
      exact ⟨name, element, found, .inr (List.any_eq_true.mp within)⟩
  · rintro ⟨name, element, found, same | within⟩
    · exact .inl ⟨(name, element.json), (mem_elementsOf lists).mpr ⟨element, found, rfl⟩, decide_eq_true same⟩
    · refine .inr ⟨(name, element.json), (mem_elementsOf lists).mpr ⟨element, found, rfl⟩, ?_⟩
      rw [storePathsOf_json]
      exact List.any_eq_true.mpr within

/-! ## The two together -/

/-- In every run an install keeps the other elements, and the answer of `is_installed` is whether the package is there. -/
structure Exact (packages : Packages) (base pkg : String) (upgrade : Bool) (start : Profile) : Prop where
  keeps : (profileInstall base pkg upgrade).Holds (machine packages pkg start) (fun _ _ => True) start
  installed : (isInstalled pkg).Holds (machine packages pkg start)
    (fun result _ => ∀ answer, result = .ok answer → (answer = true ↔ HasPackage pkg start)) start

/-- The name of the package, and in a conflict also those that the error gives, are the names of elements that may be removed. -/
def NamesOwn (packages : Packages) (pkg : String) (upgrade : Bool) (start : Profile) : Prop :=
  MacMgmt.Daemon.isValidPackageName pkg = true →
    if upgrade then Given packages pkg start pkg
    else ∀ stderr, packages.reports start pkg stderr →
      contains (commandError "install" pkg stderr) "already provides" = true →
        Targeted packages pkg start (commandError "install" pkg stderr)

/-- No element is mistaken for one of a package that is not there, and one of a package that is there is found. -/
structure Recognised (pkg : String) (start : Profile) : Prop where
  mistaken : ∀ name element, start.lookup name = some element → Matches pkg name element → HasPackage pkg start
  found : HasPackage pkg start → ∃ name element, start.lookup name = some element ∧ Matches pkg name element

theorem keeps_iff {upgrade : Bool} :
    (profileInstall base pkg upgrade).Holds (machine packages pkg start) (fun _ _ => True) start ↔
      NamesOwn packages pkg upgrade start := by
  rw [profileInstall, NamesOwn]
  by_cases valid : MacMgmt.Daemon.isValidPackageName pkg = true
  · rw [if_pos valid, forall_prop_of_true valid]
    cases upgrade with
    | true => exact ⟨given_of_upgradeInstalled, fun given => holds_of_proper (asks_upgradeInstalled given) keeps_start⟩
    | false =>
        exact ⟨fun holds _ reported conflict => targeted_of_installNew holds reported conflict, holds_installNew⟩
  · rw [if_neg valid]
    exact iff_of_true trivial fun held => absurd held valid

theorem installed_iff :
    (isInstalled pkg).Holds (machine packages pkg start)
      (fun result _ => ∀ answer, result = .ok answer → (answer = true ↔ HasPackage pkg start)) start ↔
      Recognised pkg start := by
  constructor
  · intro holds
    obtain ⟨json, lists⟩ := exists_listing start
    have answers := (holds (.listed json) lists).2 (isInstalledIn json pkg) rfl
    rw [isInstalledIn_iff lists] at answers
    exact ⟨fun name element found matching => answers.mp ⟨name, element, found, matching⟩, answers.mpr⟩
  · intro recognised outcome allowed
    refine ⟨keeps_start, ?_⟩
    cases outcome with
    | listed json =>
        intro answer same
        obtain rfl := Except.ok.inj same
        rw [isInstalledIn_iff allowed]
        exact ⟨fun ⟨name, element, found, matching⟩ => recognised.mistaken name element found matching, recognised.found⟩
    | element | removed | unchanged | supported | failed | unrunnable => nofun

theorem profile_exact_iff (packages : Packages) (base pkg : String) (upgrade : Bool) (start : Profile) :
    Exact packages base pkg upgrade start ↔ NamesOwn packages pkg upgrade start ∧ Recognised pkg start :=
  ⟨fun both => ⟨keeps_iff.mp both.keeps, installed_iff.mp both.installed⟩,
    fun ⟨names, recognised⟩ => ⟨keeps_iff.mpr names, installed_iff.mpr recognised⟩⟩

end

/-! ## Names that contain one another -/

def conflictReport : String :=
  "error: An existing package already provides the following file:\n\n  /nix/store/a1-ollama-0.21.0/bin/ollama\n"

def samplePackages : Packages where
  provides pkg := if pkg = "ollama-cuda" then ["bin/ollama"] else []
  reports _ _ stderr := stderr = conflictReport

def sampleProfile : Profile :=
  (((∅ : Profile).insert "ollama" ⟨some "ollama", none, ["/nix/store/a1-ollama-0.21.0"], ["bin/ollama"]⟩).insert
    "ollama-webui" ⟨some "ollama-webui", none, ["/nix/store/c3-ollama-webui-1.0"], ["bin/webui"]⟩).insert
    "restic-rest-server" ⟨some "restic-rest-server", none, ["/nix/store/d4-restic-rest-server-0.13"], ["bin/rest-server"]⟩

theorem commandError_toList (action name stderr : String) :
    (commandError action name stderr).toList =
      "nix profile ".toList ++ action.toList ++ " ".toList ++ name.toList ++ " failed: ".toList ++
        MacMgmt.Agent.trimWhitespace stderr.toList := by
  change ("nix profile " ++ action ++ " " ++ name ++ " failed: " ++ trim stderr).toList = _
  simp only [String.toList_append, trim, String.toList_ofList]

theorem conflictReport_base :
    contains (commandError "install" "ollama-cuda" conflictReport) "already provides" = true ∧
      parseConflictingStoreBase (commandError "install" "ollama-cuda" conflictReport) = some "ollama" := by
  have command : "nix profile ".toList = _ := String.toList_ofList
  have action : "install".toList = _ := String.toList_ofList
  have space : " ".toList = _ := String.toList_ofList
  have name : "ollama-cuda".toList = _ := String.toList_ofList
  have failed : " failed: ".toList = _ := String.toList_ofList
  have report : conflictReport.toList = _ := String.toList_ofList
  have provides : "already provides".toList = _ := String.toList_ofList
  rw [contains, parseConflictingStoreBase, commandError_toList, command, action, space, name, failed, report, provides]
  exact ⟨by decide +kernel, by decide +kernel⟩

/-- Installing `ollama-cuda` can remove `ollama-webui`, and `restic` counts as installed where only `restic-rest-server` is. -/
theorem related_removed :
    ¬Exact samplePackages "nixpkgs" "ollama-cuda" false sampleProfile ∧
      ¬Exact samplePackages "nixpkgs" "restic" false sampleProfile := by
  constructor
  · intro both
    have targeted := keeps_iff.mp both.keeps (by decide +kernel) conflictReport rfl conflictReport_base.1
    have webui := targeted.related "ollama" conflictReport_base.2 "ollama-webui" (by decide) (by decide +kernel)
      ⟨some "ollama-webui", none, ["/nix/store/c3-ollama-webui-1.0"], ["bin/webui"]⟩ (by decide +kernel)
    rcases webui with same | ⟨file, provided, wanted⟩
    · exact absurd same (by decide)
    · obtain rfl := List.mem_singleton.mp provided
      exact absurd wanted (by decide)
  · intro both
    obtain ⟨name, element, found, same⟩ := (installed_iff.mp both.installed).mistaken "restic-rest-server"
      ⟨some "restic-rest-server", none, ["/nix/store/d4-restic-rest-server-0.13"], ["bin/rest-server"]⟩ (by decide +kernel)
      (.inr ⟨_, List.mem_cons_self, by decide +kernel⟩)
    simp only [sampleProfile, Table.lookup_insert_ite] at found
    split_ifs at found
    · obtain rfl := Option.some.inj found
      exact absurd same (by decide)
    · obtain rfl := Option.some.inj found
      exact absurd same (by decide)
    · obtain rfl := Option.some.inj found
      exact absurd same (by decide)
    · cases found

end MacMgmt.Proof.NixProfile
