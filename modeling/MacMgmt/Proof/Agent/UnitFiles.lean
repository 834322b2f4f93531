import MacMgmt.Agent.UnitFiles
import MacMgmt.Lib.Pointwise
import MacMgmt.Lib.Replace

/-!
# Units that are read back

What a reader finds is made of the characters that it leaves alone. A specification with any other character is therefore not
read back, and without one the lines and elements of the unit are those that were written.
-/

namespace MacMgmt.Proof.UnitFiles
open Lib Agent.Unmanaged

variable {svc : UnmanagedService} {spec : SpawnSpec}

/-! ## The lines of a unit -/

theorem execText_toList (spec : SpawnSpec) :
    (if spec.args = [] then spec.program else spec.program ++ " " ++ " ".intercalate spec.args).toList =
      Shell.joined spec.words := by
  rw [Shell.joined, SpawnSpec.words]
  cases args : spec.args with
  | nil => simp
  | cons first rest =>
      simp [String.toList_intercalate, List.intercalate_cons_cons]

def envLine (entry : String × String) : Text := ("Environment=" ++ entry.1 ++ "=" ++ entry.2).toList

def execLine (spec : SpawnSpec) : Text := "ExecStart=/bin/bash -lc '".toList ++ Shell.joined spec.words ++ [Shell.apostrophe]

/-- The lines of the environment; there is an empty one if there is no variable. -/
def envLines (spec : SpawnSpec) : List Text := if spec.env = [] then [[]] else spec.env.map envLine

structure BareLines (spec : SpawnSpec) : Prop where
  words : '\n' ∉ Shell.joined spec.words
  env : ∀ entry ∈ spec.env, '\n' ∉ entry.1.toList ∧ '\n' ∉ entry.2.toList

def unitFront (svc : UnmanagedService) : List Text :=
  ["[Unit]".toList, ("Description=" ++ svc.name ++ " (mac-mgmt unmanaged)").toList, "After=network-online.target".toList,
    "Wants=network-online.target".toList, "".toList, "[Service]".toList, "Type=simple".toList, ("User=" ++ svc.user).toList,
    ("Environment=HOME=" ++ svc.home).toList]

def unitBack (spec : SpawnSpec) : List Text :=
  [execLine spec, "Restart=always".toList, "RestartSec=5".toList, "".toList, "[Install]".toList, "WantedBy=multi-user.target".toList,
    "".toList]

theorem notMem_append {c : Char} {first second : Text} (absent : c ∉ first) (absent' : c ∉ second) : c ∉ first ++ second :=
  fun member => (List.mem_append.mp member).elim absent absent'

theorem bare_unitFront {c : Char} (control : c ∈ ['\n', '\r']) (tidy : Tidy .linux svc) : ∀ line ∈ unitFront svc, c ∉ line := by
  have absent {text : String} (named : text ∈ [svc.name, svc.user, svc.home]) : c ∉ text.toList := fun member =>
    tidy text named c member (List.mem_append_left ['\\'] control)
  have name : c ∉ svc.name.toList := absent (by simp)
  have user : c ∉ svc.user.toList := absent (by simp)
  have home : c ∉ svc.home.toList := absent (by simp)
  have fixed {text : Text} (bare : ['\n', '\r'].all (fun c => !text.contains c) = true) : c ∉ text := by
    simpa using List.all_eq_true.mp bare c control
  simp only [unitFront, List.forall_mem_cons, String.toList_append]
  refine ⟨fixed (by decide), ?_, fixed (by decide), fixed (by decide), fixed (by decide), fixed (by decide), fixed (by decide), ?_, ?_,
    List.forall_mem_nil _⟩
  · exact notMem_append (notMem_append (fixed (by decide)) name) (fixed (by decide))
  · exact notMem_append (fixed (by decide)) user
  · exact notMem_append (fixed (by decide)) home

theorem bare_unitBack {c : Char} (control : c ∈ ['\n', '\r']) (bare : c ∉ Shell.joined spec.words) :
    ∀ line ∈ unitBack spec, c ∉ line := by
  have fixed {text : Text} (bare : ['\n', '\r'].all (fun c => !text.contains c) = true) : c ∉ text := by
    simpa using List.all_eq_true.mp bare c control
  have exec : c ∉ execLine spec := notMem_append (notMem_append (fixed (by decide)) bare) (fixed (by decide))
  simp only [unitBack, List.forall_mem_cons]
  exact ⟨exec, fixed (by decide), fixed (by decide), fixed (by decide), fixed (by decide), fixed (by decide), fixed (by decide),
    List.forall_mem_nil _⟩

theorem splitOn_envLines (bare : BareLines spec) :
    ("\n".intercalate (spec.env.map fun entry => "Environment=" ++ entry.1 ++ "=" ++ entry.2)).toList.splitOn '\n' = envLines spec := by
  rw [String.toList_intercalate, List.map_map, envLines]
  cases env : spec.env with
  | nil => rfl
  | cons entry rest =>
      rw [if_neg (List.cons_ne_nil _ _)]
      refine List.splitOn_intercalate '\n' (fun line member => ?_) (List.cons_ne_nil _ _)
      obtain ⟨entry, within, rfl⟩ := List.mem_map.mp member
      obtain ⟨key, value⟩ := bare.env entry (env ▸ within)
      simp only [Function.comp_apply, String.toList_append]
      exact notMem_append (notMem_append (notMem_append (by decide) key) (by decide)) value

theorem systemdUnit_toList (svc : UnmanagedService) (spec : SpawnSpec) :
    (systemdUnit svc spec).toList = ['\n'].intercalate (unitFront svc ++
      ("\n".intercalate (spec.env.map fun entry => "Environment=" ++ entry.1 ++ "=" ++ entry.2)).toList :: unitBack spec) := by
  have exec : ("ExecStart=/bin/bash -lc '" ++ (if spec.args = [] then spec.program
      else spec.program ++ " " ++ " ".intercalate spec.args) ++ "'").toList = execLine spec := by
    rw [String.toList_append, String.toList_append, execText_toList]
    rfl
  rw [systemdUnit, String.toList_intercalate, unitBack, ← exec]
  rfl

theorem splitOn_systemdUnit (tidy : Tidy .linux svc) (bare : BareLines spec) :
    (systemdUnit svc spec).toList.splitOn '\n' = unitFront svc ++ envLines spec ++ unitBack spec := by
  rw [systemdUnit_toList, splitOn_around _ (bare_unitFront List.mem_cons_self tidy)
    (bare_unitBack List.mem_cons_self bare.words) (List.cons_ne_nil _ _), splitOn_envLines bare]

def serviceFront (svc : UnmanagedService) : List Text :=
  ["Type=simple".toList, ("User=" ++ svc.user).toList, ("Environment=HOME=" ++ svc.home).toList]

def serviceBack (spec : SpawnSpec) : List Text :=
  [execLine spec, "Restart=always".toList, "RestartSec=5".toList, "".toList]

theorem head?_append_toList {first : String} {c : Char} (begins : first.toList.head? = some c) (second : Text) :
    (first.toList ++ second).head? = some c := by
  rw [List.head?_append, begins]
  rfl

theorem serviceLines_systemdUnit (tidy : Tidy .linux svc) (bare : BareLines spec) :
    serviceLines (systemdUnit svc spec).toList = serviceFront svc ++ envLines spec ++ serviceBack spec := by
  have description : ("Description=" ++ svc.name ++ " (mac-mgmt unmanaged)").toList ≠ "[Service]".toList := by
    intro same
    have first := congrArg List.head? same
    rw [String.append_assoc, String.toList_append, head?_append_toList (c := 'D') (by decide)] at first
    exact absurd first (by decide)
  have split : unitFront svc ++ envLines spec ++ unitBack spec =
      ["[Unit]".toList, ("Description=" ++ svc.name ++ " (mac-mgmt unmanaged)").toList, "After=network-online.target".toList,
        "Wants=network-online.target".toList, "".toList] ++
      "[Service]".toList :: (serviceFront svc ++ envLines spec ++ serviceBack spec ++
        "[Install]".toList :: ["WantedBy=multi-user.target".toList, "".toList]) := by
    simp [unitFront, unitBack, serviceFront, serviceBack]
  have before : ∀ line ∈ ["[Unit]".toList, ("Description=" ++ svc.name ++ " (mac-mgmt unmanaged)").toList,
      "After=network-online.target".toList, "Wants=network-online.target".toList, "".toList],
      decide (line ≠ "[Service]".toList) = true := by
    simp only [List.forall_mem_cons, decide_eq_true_eq]
    exact ⟨by decide, description, by decide, by decide, by decide, List.forall_mem_nil _⟩
  have inside : ∀ line ∈ serviceFront svc ++ envLines spec ++ serviceBack spec, decide (line.head? ≠ some '[') = true := by
    have envFine : ∀ line ∈ envLines spec, line.head? ≠ some '[' := by
      intro line member
      rw [envLines] at member
      split at member
      · rw [List.mem_singleton.mp member]
        decide
      · obtain ⟨entry, -, rfl⟩ := List.mem_map.mp member
        rw [envLine, String.append_assoc, String.append_assoc, String.toList_append, head?_append_toList (c := 'E') (by decide)]
        decide
    have front : ∀ line ∈ serviceFront svc, line.head? ≠ some '[' := by
      simp only [serviceFront, List.forall_mem_cons, String.toList_append]
      rw [head?_append_toList (c := 'U') (by decide), head?_append_toList (c := 'E') (by decide)]
      exact ⟨by decide, by decide, by decide, List.forall_mem_nil _⟩
    have exec : (execLine spec).head? ≠ some '[' := by
      have first : ("ExecStart=/bin/bash -lc '".toList ++ (Shell.joined spec.words ++ [Shell.apostrophe])).head? = some 'E' :=
        head?_append_toList (by decide) _
      rw [← List.append_assoc] at first
      rw [show (execLine spec).head? = some 'E' from first]
      decide
    have back : ∀ line ∈ serviceBack spec, line.head? ≠ some '[' := by
      simp only [serviceBack, List.forall_mem_cons]
      exact ⟨exec, by decide, by decide, by decide, List.forall_mem_nil _⟩
    intro line member
    rw [decide_eq_true_eq]
    rcases List.mem_append.mp member with early | late
    · exact (List.mem_append.mp early).elim (front line) (envFine line)
    · exact back line late
  rw [serviceLines, splitOn_systemdUnit tidy bare, split, List.dropWhile_append_of_pos before]
  have stop : decide ("[Service]".toList ≠ "[Service]".toList) = false := by decide
  have stopInstall : decide ("[Install]".toList.head? ≠ some '[') = false := by decide
  rw [List.dropWhile_cons, stop, if_neg (by decide), List.drop_succ_cons, List.drop_zero, List.takeWhile_append_of_pos inside,
    List.takeWhile_cons, stopInstall, if_neg (by decide), List.append_nil]

/-! ## Settings -/

theorem settings_append (key : String) (lines others : List Text) :
    settings key (lines ++ others) = settings key lines ++ settings key others := List.filterMap_append

theorem settings_of {key : String} {line value : Text} (whole : line = (key ++ "=").toList ++ value) (lines : List Text) :
    settings key (line :: lines) = value :: settings key lines := by
  have begins : (key ++ "=").toList.isPrefixOf line = true := List.isPrefixOf_iff_prefix.mpr ⟨value, whole.symm⟩
  have rest : line.drop (key ++ "=").length = value := by
    rw [whole, ← String.length_toList]
    exact List.drop_left
  simp only [settings, List.filterMap_cons, begins, if_true, rest]

theorem settings_other {key : String} {line : Text} (apart : ¬ (key ++ "=").toList <+: line) (lines : List Text) :
    settings key (line :: lines) = settings key lines := by
  have begins : (key ++ "=").toList.isPrefixOf line = false :=
    Bool.eq_false_iff.mpr fun found => apart (List.isPrefixOf_iff_prefix.mp found)
  rw [settings, List.filterMap_cons, begins]
  rfl

theorem prefix_apart {first second : Text} (apart : ¬ first <+: second) (apart' : ¬ second <+: first) (rest : Text) :
    ¬ first <+: second ++ rest := by
  intro begins
  rcases le_total first.length second.length with short | long
  · exact apart (List.prefix_of_prefix_length_le begins (List.prefix_append second rest) short)
  · exact apart' (List.prefix_of_prefix_length_le (List.prefix_append second rest) begins long)

theorem prefix_apart_append {first : Text} {second : String} (apart : ¬ first <+: second.toList)
    (apart' : ¬ second.toList <+: first) (rest : String) : ¬ first <+: (second ++ rest).toList := by
  rw [String.toList_append]
  exact prefix_apart apart apart' _

theorem execLine_eq (spec : SpawnSpec) : execLine spec = ("ExecStart" ++ "=").toList ++
    ("/bin/bash -lc '".toList ++ Shell.joined spec.words ++ [Shell.apostrophe]) := by
  rw [← List.append_assoc, ← List.append_assoc]
  rfl

theorem settings_serviceBack_exec (spec : SpawnSpec) :
    settings "ExecStart" (serviceBack spec) =
      ["/bin/bash -lc '".toList ++ Shell.joined spec.words ++ [Shell.apostrophe]] := by
  rw [serviceBack, settings_of (execLine_eq spec), settings_other (by decide), settings_other (by decide),
    settings_other (by decide)]
  rfl

theorem settings_serviceBack_env (spec : SpawnSpec) : settings "Environment" (serviceBack spec) = [] := by
  have exec : ¬ ("Environment" ++ "=").toList <+: execLine spec := by
    rw [execLine_eq]
    exact prefix_apart (by decide) (by decide) _
  rw [serviceBack, settings_other exec, settings_other (by decide), settings_other (by decide), settings_other (by decide)]
  rfl

theorem settings_serviceFront_exec (svc : UnmanagedService) : settings "ExecStart" (serviceFront svc) = [] := by
  have user : ¬ ("ExecStart" ++ "=").toList <+: ("User=" ++ svc.user).toList :=
    prefix_apart_append (by decide) (by decide) _
  have home : ¬ ("ExecStart" ++ "=").toList <+: ("Environment=HOME=" ++ svc.home).toList :=
    prefix_apart_append (by decide) (by decide) _
  rw [serviceFront, settings_other (by decide), settings_other user, settings_other home]
  rfl

theorem envLine_eq (entry : String × String) :
    envLine entry = ("Environment" ++ "=").toList ++ (entry.1.toList ++ '=' :: entry.2.toList) := by
  simp [envLine]

theorem settings_envLines_exec (spec : SpawnSpec) : settings "ExecStart" (envLines spec) = [] := by
  refine List.filterMap_eq_nil_iff.mpr fun line member => ?_
  have apart : ¬ ("ExecStart" ++ "=").toList <+: line := by
    rw [envLines] at member
    split at member
    · rw [List.mem_singleton.mp member]
      decide
    · obtain ⟨entry, -, rfl⟩ := List.mem_map.mp member
      rw [envLine_eq]
      exact prefix_apart (by decide) (by decide) _
  rw [if_neg fun found => apart (List.isPrefixOf_iff_prefix.mp found)]

theorem settings_envLines (spec : SpawnSpec) :
    settings "Environment" (envLines spec) = spec.env.map fun entry => entry.1.toList ++ '=' :: entry.2.toList := by
  have each (env : List (String × String)) :
      settings "Environment" (env.map envLine) = env.map fun entry => entry.1.toList ++ '=' :: entry.2.toList := by
    induction env with
    | nil => rfl
    | cons entry env ih => rw [List.map_cons, settings_of (envLine_eq entry), ih, List.map_cons]
  rw [envLines]
  split
  · rename_i none_
    rw [none_]
    rfl
  · exact each spec.env

theorem settings_serviceFront_env (svc : UnmanagedService) :
    settings "Environment" (serviceFront svc) = ["HOME=".toList ++ svc.home.toList] := by
  have user : ¬ ("Environment" ++ "=").toList <+: ("User=" ++ svc.user).toList :=
    prefix_apart_append (by decide) (by decide) _
  have home : ("Environment=HOME=" ++ svc.home).toList = ("Environment" ++ "=").toList ++ ("HOME=".toList ++ svc.home.toList) := by
    rw [String.toList_append, ← List.append_assoc]
    rfl
  rw [serviceFront, settings_other (by decide), settings_other user, settings_of home]
  rfl

theorem settings_systemdUnit (tidy : Tidy .linux svc) (bare : BareLines spec) :
    settings "ExecStart" (serviceLines (systemdUnit svc spec).toList) =
        ["/bin/bash -lc '".toList ++ Shell.joined spec.words ++ [Shell.apostrophe]] ∧
      (settings "Environment" (serviceLines (systemdUnit svc spec).toList)).drop 1 =
        spec.env.map fun entry => entry.1.toList ++ '=' :: entry.2.toList := by
  rw [serviceLines_systemdUnit tidy bare]
  constructor
  · rw [settings_append, settings_append, settings_serviceFront_exec, settings_envLines_exec, settings_serviceBack_exec,
      List.nil_append, List.nil_append]
  · rw [settings_append, settings_append, settings_envLines, settings_serviceFront_env, settings_serviceBack_env,
      List.append_nil, List.singleton_append, List.drop_succ_cons, List.drop_zero]

/-! ## What is found was in the text -/

theorem mem_serviceLines {text line : Text} (member : line ∈ serviceLines text) : '\n' ∉ line := by
  have whole : line ∈ text.splitOn '\n' :=
    (List.dropWhile_sublist _).subset (List.mem_of_mem_drop ((List.takeWhile_sublist _).subset member))
  exact not_mem_of_mem_splitOn text line whole

theorem mem_settings {key : String} {lines : List Text} {value : Text} (member : value ∈ settings key lines) :
    ∃ line ∈ lines, ∀ c ∈ value, c ∈ line := by
  obtain ⟨line, within, found⟩ := List.mem_filterMap.mp member
  split at found
  · obtain rfl := Option.some.inj found
    exact ⟨line, within, fun c read => List.mem_of_mem_drop read⟩
  · cases found

def itemRead : ItemMode → Text
  | .between => []
  | .bare item | .quoted _ item | .closed item => item

theorem items_sublist {mode : ItemMode} {text : Text} {found : List Text} (read : items mode text = some found) :
    found.flatten.Sublist (itemRead mode ++ text) := by
  induction text generalizing mode found with
  | nil =>
      cases mode with
      | between =>
          obtain rfl := Option.some.inj read
          exact List.nil_sublist _
      | bare item | closed item =>
          obtain rfl := Option.some.inj read
          simp [itemRead]
      | quoted quote item => cases read
  | cons c rest ih =>
      have next {item : Text} (read : ((items .between rest).map fun more => item :: more) = some found) :
          found.flatten.Sublist (item ++ c :: rest) := by
        obtain ⟨more, foundMore, rfl⟩ := Option.map_eq_some_iff.mp read
        exact (List.Sublist.refl item).append ((ih foundMore).cons c)
      have grown {item : Text} (later : found.flatten.Sublist ((item ++ [c]) ++ rest)) :
          found.flatten.Sublist (item ++ c :: rest) := by
        rwa [List.append_assoc, List.singleton_append] at later
      rw [items.eq_def] at read
      cases mode with
      | between =>
          simp only at read
          split at read
          · exact (ih read).cons c
          split at read
          · exact (ih read).cons c
          · exact ih read
      | bare item =>
          simp only at read
          split at read
          · exact next read
          · exact grown (ih read)
      | quoted quote item =>
          simp only at read
          split at read
          · exact (ih read).trans ((List.Sublist.refl item).append (List.sublist_cons_self c rest))
          · exact grown (ih read)
      | closed item =>
          simp only at read
          split at read
          · exact next read
          · cases read

theorem mem_items {text : Text} {found : List Text} (read : items .between text = some found) {item : Text}
    (member : item ∈ found) {c : Char} (within : c ∈ item) : c ∈ text :=
  (items_sublist read).subset (List.mem_flatten.mpr ⟨item, member, within⟩)

/-! ## The command -/

theorem items_quoted {quote : Char} {front : Text} (inside : quote ∉ front) (read rest : Text) :
    items (.quoted quote read) (front ++ quote :: rest) = items (.closed (read ++ front)) rest := by
  induction front generalizing read with
  | nil => rw [List.nil_append, items, if_pos rfl, List.append_nil]
  | cons c front ih =>
      have other : c ≠ quote := fun same => inside (same ▸ List.mem_cons_self)
      have later : quote ∉ front := fun member => inside (List.mem_cons_of_mem c member)
      rw [List.cons_append, items, if_neg other, ih later, List.append_assoc, List.singleton_append]

theorem items_bash (rest : Text) : items .between ("/bin/bash -lc '".toList ++ rest) =
    ((items (.quoted Shell.apostrophe []) rest).map fun more => "-lc".toList :: more).map fun more =>
      "/bin/bash".toList :: more := rfl

theorem items_command {exec : Text} (inside : Shell.apostrophe ∉ exec) :
    items .between ("/bin/bash -lc '".toList ++ exec ++ [Shell.apostrophe]) =
      some ["/bin/bash".toList, "-lc".toList, exec] := by
  rw [List.append_assoc, items_bash, items_quoted inside, List.nil_append]
  rfl

theorem hasSpecifier_append_left {front : Text} (absent : '%' ∉ front) (text : Text) :
    hasSpecifier (front ++ text) = hasSpecifier text := by
  induction front with
  | nil => rfl
  | cons c front ih =>
      have other : c ≠ '%' := fun same => absent (same ▸ List.mem_cons_self)
      rw [List.cons_append, hasSpecifier.eq_2 _ _ fun d rest same => absurd same other,
        ih fun member => absent (List.mem_cons_of_mem c member)]

theorem hasSpecifier_append_right {c : Char} (plain : specifiers.contains c = false) (other : c ≠ '%') (text : Text) :
    hasSpecifier (text ++ [c]) = hasSpecifier text := by
  induction text with
  | nil => rw [List.nil_append, hasSpecifier.eq_2 _ _ fun d rest same => absurd same other]
  | cons d text ih =>
      by_cases percent : d = '%'
      · rw [percent]
        cases text with
        | nil =>
            rw [List.singleton_append, hasSpecifier, plain, Bool.false_or]
            exact ih
        | cons e text =>
            have later : hasSpecifier (e :: (text ++ [c])) = hasSpecifier (e :: text) := ih
            rw [List.cons_append, List.cons_append, hasSpecifier, hasSpecifier, later]
      · rw [List.cons_append, hasSpecifier.eq_2 _ _ fun e rest same => absurd same percent,
          hasSpecifier.eq_2 _ _ fun e rest same => absurd same percent, ih]

theorem occurs_cons (piece : Text) (c : Char) (text : Text) :
    Shell.occurs piece (c :: text) = (piece.isPrefixOf (c :: text) || Shell.occurs piece text) := by
  simp [Shell.occurs]

theorem occurs_append_left {c d : Char} {front : Text} (absent : c ∉ front) (text : Text) :
    Shell.occurs [c, d] (front ++ text) = Shell.occurs [c, d] text := by
  induction front with
  | nil => rfl
  | cons e front ih =>
      have other : [c, d].isPrefixOf (e :: (front ++ text)) = false := by
        have apart : (c == e) = false := beq_eq_false_iff_ne.mpr fun same => absent (same ▸ List.mem_cons_self)
        rw [List.isPrefixOf_cons_cons, apart, Bool.false_and]
      rw [List.cons_append, occurs_cons, other, Bool.false_or, ih fun member => absent (List.mem_cons_of_mem e member)]

theorem occurs_append_right {c d e : Char} (other : d ≠ e) (text : Text) :
    Shell.occurs [c, d] (text ++ [e]) = Shell.occurs [c, d] text := by
  induction text with
  | nil =>
      have short : [c, d].isPrefixOf [e] = false := by simp [List.isPrefixOf]
      rw [List.nil_append, occurs_cons, short, Bool.false_or]
  | cons first text ih =>
      rw [List.cons_append, occurs_cons, occurs_cons, ih]
      congr 1
      cases text with
      | nil => simp [List.isPrefixOf, other]
      | cons second text => simp [List.isPrefixOf]

theorem not_occurs_of_lex {c : Char} (starts : Shell.startsParameter c = true) {text : Text} {word : Option Text}
    {words : List Text} (unquoted : ∀ d ∈ text, Shell.isQuoting d = false) (read : Shell.lex .bare word text = some words) :
    Shell.occurs ['$', c] text = false := by
  induction text generalizing word words with
  | nil => rfl
  | cons d text ih =>
      obtain ⟨first, later⟩ := List.forall_mem_cons.mp unquoted
      have other : d ≠ '\\' := by
        rintro rfl
        exact absurd first (by decide)
      rw [Shell.lex, if_neg other, first] at read
      rw [occurs_cons, Bool.or_eq_false_iff]
      split at read
      · rename_i blank
        obtain ⟨more, readMore, -⟩ := Option.map_eq_some_iff.mp read
        refine ⟨?_, ih later readMore⟩
        have apart : ('$' == d) = false := by
          refine beq_eq_false_iff_ne.mpr ?_
          rintro rfl
          exact absurd blank (by decide)
        rw [List.isPrefixOf_cons_cons, apart, Bool.false_and]
      · rw [if_neg (by decide)] at read
        split at read
        · cases read
        · rename_i literal
          refine ⟨?_, ih later read⟩
          by_cases dollar : d = '$'
          · subst dollar
            cases text with
            | nil => rfl
            | cons e text =>
                have plain : Shell.startsParameter e = false := by
                  simpa [Shell.expands, Shell.operators, Shell.backquote] using literal
                have apart : (c == e) = false := by
                  refine beq_eq_false_iff_ne.mpr ?_
                  rintro rfl
                  rw [starts] at plain
                  cases plain
                simp [List.isPrefixOf, apart]
          · rw [List.isPrefixOf_cons_cons, beq_eq_false_iff_ne.mpr (Ne.symm dollar), Bool.false_and]

theorem notMem_joined {c : Char} {words : List Text} (other : c ≠ ' ') (absent : ∀ word ∈ words, c ∉ word) :
    c ∉ Shell.joined words := by
  intro member
  rcases mem_of_mem_intercalate member with separator | ⟨word, within, inside⟩
  · exact other (List.mem_singleton.mp separator)
  · exact absent word within inside

theorem items_closed {item text : Text} {found : List Text} (read : items (.closed item) text = some found) :
    ∃ more, found = item :: more := by
  cases text with
  | nil =>
      obtain rfl := Option.some.inj read
      exact ⟨[], rfl⟩
  | cons c rest =>
      rw [items] at read
      split at read
      · obtain ⟨more, -, rfl⟩ := Option.map_eq_some_iff.mp read
        exact ⟨more, rfl⟩
      · cases read

theorem readCommand_some {value : Text} {words : List Text} (read : readCommand value = some words) :
    (value.contains '\\' = false ∧ hasSpecifier value = false ∧ hasVariable value = false) ∧
      ∃ shell flag command more, items .between value = some (shell :: flag :: command :: more) ∧
        Shell.command command = some words := by
  rw [readCommand] at read
  split at read
  · cases read
  · rename_i plain
    obtain ⟨⟨backslash, specifier⟩, variable_⟩ : (value.contains '\\' = false ∧ hasSpecifier value = false) ∧
        hasVariable value = false := by
      simpa only [Bool.or_eq_true, not_or, Bool.not_eq_true] using plain
    refine ⟨⟨backslash, specifier, variable_⟩, ?_⟩
    split at read
    · rename_i shell flag command more found
      split at read
      · exact ⟨shell, flag, command, more, found, read⟩
      · cases read
    · cases read

theorem command_of_readCommand {exec : Text} {words : List Text}
    (read : readCommand ("/bin/bash -lc '".toList ++ exec ++ [Shell.apostrophe]) = some words) :
    ∀ word ∈ words, Shell.apostrophe ∉ word := by
  obtain ⟨-, shell, flag, command, more, found, ran⟩ := readCommand_some read
  obtain ⟨front, back, split, inside⟩ := List.eq_append_cons_of_mem (List.mem_append_right exec
    (List.mem_cons_self : Shell.apostrophe ∈ [Shell.apostrophe]))
  rw [List.append_assoc, split, items_bash, items_quoted inside, List.nil_append] at found
  obtain ⟨afterShell, foundShell, same⟩ := Option.map_eq_some_iff.mp found
  obtain ⟨afterFlag, foundFlag, sameFlag⟩ := Option.map_eq_some_iff.mp foundShell
  obtain ⟨others, first⟩ := items_closed foundFlag
  have isFront : front = command := by
    rw [← sameFlag, first] at same
    simp only [List.cons.injEq] at same
    exact same.2.2.1
  intro word member within
  exact inside (isFront ▸ Shell.mem_of_command ran member within)

theorem words_ne_nil (spec : SpawnSpec) : spec.words ≠ [] := List.cons_ne_nil _ _

theorem readCommand_iff (spec : SpawnSpec) :
    readCommand ("/bin/bash -lc '".toList ++ Shell.joined spec.words ++ [Shell.apostrophe]) = some spec.words ↔
      (∀ word ∈ spec.words, Shell.PlainWord word) ∧
        (Shell.reservedWords.contains spec.program = false ∧ Shell.isAssignment spec.program.toList = false) ∧
          hasSpecifier (Shell.joined spec.words) = false := by
  have specifier : hasSpecifier ("/bin/bash -lc '".toList ++ Shell.joined spec.words ++ [Shell.apostrophe]) =
      hasSpecifier (Shell.joined spec.words) := by
    rw [hasSpecifier_append_right (by decide) (by decide), hasSpecifier_append_left (by decide)]
  have command : Shell.command (Shell.joined spec.words) = some spec.words ↔ (∀ word ∈ spec.words, Shell.PlainWord word) ∧
      Shell.reservedWords.contains spec.program = false ∧ Shell.isAssignment spec.program.toList = false := by
    rw [← Shell.lex_joined_iff (words_ne_nil spec), SpawnSpec.words, List.map_cons, Shell.command_iff, String.ofList_toList]
  constructor
  · intro read
    have inside := notMem_joined (by decide) (command_of_readCommand read)
    obtain ⟨⟨-, plain, -⟩, shell, flag, text, more, found, ran⟩ := readCommand_some read
    rw [items_command inside] at found
    simp only [Option.some.injEq, List.cons.injEq] at found
    obtain ⟨-, -, rfl, -⟩ := found
    obtain ⟨words, special⟩ := command.mp ran
    exact ⟨words, special, specifier ▸ plain⟩
  · rintro ⟨words, special, plain⟩
    have unquoted : ∀ c ∈ Shell.joined spec.words, Shell.isQuoting c = false := by
      intro c member
      rcases mem_of_mem_intercalate member with separator | ⟨word, within, found⟩
      · rw [List.mem_singleton.mp separator]
        decide
      · exact ((words word within).unquoted c found).2
    have absent {c : Char} (quoting : Shell.isQuoting c = true) : c ∉ Shell.joined spec.words := by
      intro member
      rw [unquoted c member] at quoting
      cases quoting
    have backslash : ("/bin/bash -lc '".toList ++ Shell.joined spec.words ++ [Shell.apostrophe]).contains '\\' = false := by
      have bare : '\\' ∉ "/bin/bash -lc '".toList ++ Shell.joined spec.words ++ [Shell.apostrophe] :=
        notMem_append (notMem_append (by decide) (absent (by decide))) (by decide)
      simpa using bare
    have lexed := (Shell.lex_joined_iff (words_ne_nil spec)).mpr words
    have variable_ : hasVariable ("/bin/bash -lc '".toList ++ Shell.joined spec.words ++ [Shell.apostrophe]) = false := by
      rw [hasVariable, occurs_append_right (by decide), occurs_append_right (by decide), occurs_append_left (by decide),
        occurs_append_left (by decide), not_occurs_of_lex (by decide) unquoted lexed, not_occurs_of_lex (by decide) unquoted lexed]
      rfl
    rw [readCommand, backslash, specifier, plain, variable_, items_command (absent (by decide))]
    exact command.mpr ⟨words, special⟩

/-! ## The environment -/

theorem notMem_name {c : Char} (other : Shell.isNameChar c = false) {name : Text} (valid : Shell.isName name = true) : c ∉ name := by
  intro member
  have inside := List.all_eq_true.mp (Bool.and_eq_true_iff.mp valid).1 c member
  rw [other] at inside
  cases inside

theorem takeWhile_name {name : Text} (absent : '=' ∉ name) (value : Text) :
    (name ++ '=' :: value).takeWhile (· ≠ '=') = name := by
  have all : ∀ c ∈ name, decide (c ≠ '=') = true := fun c member => decide_eq_true fun same => absent (same ▸ member)
  have stop : decide ('=' ≠ '=') = false := by decide
  rw [List.takeWhile_append_of_pos all, List.takeWhile_cons, stop, if_neg Bool.false_ne_true, List.append_nil]

theorem readAssignment_iff {item : Text} {entry : String × String} :
    readAssignment item = some entry ↔
      Shell.isName entry.1.toList = true ∧ item = entry.1.toList ++ '=' :: entry.2.toList := by
  have read {name value : Text} (absent : '=' ∉ name) : readAssignment (name ++ '=' :: value) =
      if Shell.isName name then some (String.ofList name, String.ofList value) else none := by
    have contained : (name ++ '=' :: value).contains '=' = true := by simp
    have rest : (name ++ '=' :: value).drop (name.length + 1) = value := by
      rw [← List.drop_drop, List.drop_left, List.drop_succ_cons, List.drop_zero]
    simp only [readAssignment, takeWhile_name absent, contained, rest, Bool.and_true]
  constructor
  · intro found
    have member : '=' ∈ item := by
      rw [readAssignment] at found
      split at found
      · rename_i valid
        simpa using (Bool.and_eq_true_iff.mp valid).2
      · cases found
    obtain ⟨name, value, rfl, absent⟩ := List.eq_append_cons_of_mem member
    rw [read absent] at found
    split at found
    · rename_i valid
      obtain rfl := Option.some.inj found
      simpa using valid
    · cases found
  · rintro ⟨valid, rfl⟩
    rw [read (notMem_name (by decide) valid), if_pos valid]
    simp

theorem items_nonempty {mode : ItemMode} {text : Text} {found : List Text} (read : items mode text = some found)
    (begun : mode ≠ .between ∨ ∃ c ∈ text, Shell.isBlank c = false) : found ≠ [] := by
  induction text generalizing mode with
  | nil =>
      cases mode with
      | between =>
          obtain other | ⟨c, member, -⟩ := begun
          · exact absurd rfl other
          · cases member
      | bare item | closed item =>
          obtain rfl := Option.some.inj read
          exact List.cons_ne_nil _ _
      | quoted quote item => cases read
  | cons c rest ih =>
      rw [items.eq_def] at read
      cases mode with
      | between =>
          simp only at read
          split at read
          · rename_i blank
            refine ih read (.inr ?_)
            obtain other | ⟨d, member, unblank⟩ := begun
            · exact absurd rfl other
            · rcases List.mem_cons.mp member with rfl | later
              · rw [blank] at unblank
                cases unblank
              · exact ⟨d, later, unblank⟩
          split at read
          · exact ih read (.inl ItemMode.noConfusion)
          · exact ih read (.inl ItemMode.noConfusion)
      | bare item =>
          simp only at read
          split at read
          · obtain ⟨more, -, rfl⟩ := Option.map_eq_some_iff.mp read
            exact List.cons_ne_nil _ _
          · exact ih read (.inl ItemMode.noConfusion)
      | quoted quote item =>
          simp only at read
          split at read
          · exact ih read (.inl ItemMode.noConfusion)
          · exact ih read (.inl ItemMode.noConfusion)
      | closed item =>
          simp only at read
          split at read
          · obtain ⟨more, -, rfl⟩ := Option.map_eq_some_iff.mp read
            exact List.cons_ne_nil _ _
          · cases read

theorem items_bare_whole {read text : Text} :
    items (.bare read) text = some [read ++ text] ↔ ∀ c ∈ text, Shell.isBlank c = false := by
  induction text generalizing read with
  | nil => simp [items]
  | cons c rest ih =>
      rw [items, List.forall_mem_cons]
      by_cases blank : Shell.isBlank c = true
      · rw [if_pos blank, blank]
        refine iff_of_false (fun found => ?_) (by simp)
        obtain ⟨more, -, same⟩ := Option.map_eq_some_iff.mp found
        have lengths := congrArg List.length (List.cons.inj same).1
        rw [List.length_append, List.length_cons] at lengths
        omega
      · have regroup : read ++ c :: rest = (read ++ [c]) ++ rest := by simp
        rw [if_neg blank, regroup, ih, Bool.eq_false_iff.mpr blank]
        simp

def envText (entry : String × String) : Text := entry.1.toList ++ '=' :: entry.2.toList

def PlainEntry (entry : String × String) : Prop :=
  Shell.isName entry.1.toList = true ∧ hasSpecifier entry.2.toList = false ∧
    ∀ c ∈ entry.2.toList, Shell.isBlank c = false ∧ c ≠ '\\'

theorem hasSpecifier_envText {entry : String × String} (valid : Shell.isName entry.1.toList = true) :
    hasSpecifier (envText entry) = hasSpecifier entry.2.toList := by
  have absent : '%' ∉ entry.1.toList ++ ['='] := notMem_append (notMem_name (by decide) valid) (by decide)
  rw [envText, ← List.singleton_append, ← List.append_assoc, hasSpecifier_append_left absent]

theorem isName_ne_nil {name : Text} (valid : Shell.isName name = true) : name ≠ [] := by
  rintro rfl
  cases valid

theorem items_envText {entry : String × String} (valid : Shell.isName entry.1.toList = true) :
    items .between (envText entry) = some [envText entry] ↔ ∀ c ∈ entry.2.toList, Shell.isBlank c = false := by
  obtain ⟨first, rest, name⟩ := List.exists_cons_of_ne_nil (isName_ne_nil valid)
  have other {c : Char} (apart : Shell.isNameChar c = false) : first ≠ c := by
    rintro rfl
    exact notMem_name apart valid (name ▸ List.mem_cons_self)
  have unblankName : ∀ c ∈ entry.1.toList ++ ['='], Shell.isBlank c = false := by
    intro c member
    refine Bool.eq_false_iff.mpr fun blank => ?_
    have bare {d : Char} (apart : Shell.isNameChar d = false) (different : d ∉ ['=']) : d ∉ entry.1.toList ++ ['='] :=
      notMem_append (notMem_name apart valid) different
    rcases Bool.or_eq_true_iff.mp blank with space | tab
    · exact bare (by decide) (by decide) (of_decide_eq_true space ▸ member)
    · exact bare (by decide) (by decide) (of_decide_eq_true tab ▸ member)
  have text : envText entry = [first] ++ (rest ++ '=' :: entry.2.toList) := by
    rw [envText, name]
    rfl
  have firstUnblank : Shell.isBlank first = false := unblankName first (by simp [name])
  have start : items .between (envText entry) = items (.bare [first]) (rest ++ '=' :: entry.2.toList) := by
    rw [text, List.singleton_append, items, firstUnblank]
    simp [other (c := Shell.apostrophe) (by decide), other (c := Shell.quotationMark) (by decide)]
  rw [start, text, items_bare_whole]
  constructor
  · exact fun unblank c member => unblank c (by simp [member])
  · intro unblank c member
    rcases List.mem_append.mp member with early | late
    · exact unblankName c (by simp [name, early])
    · rcases List.mem_cons.mp late with rfl | value
      · decide
      · exact unblank c value

theorem readAssignments_some {value : Text} {entries : List (String × String)} (read : readAssignments value = some entries) :
    (value.contains '\\' = false ∧ hasSpecifier value = false) ∧
      ∃ found, items .between value = some found ∧ found.mapM readAssignment = some entries := by
  rw [readAssignments] at read
  split at read
  · cases read
  · rename_i plain
    refine ⟨?_, Option.bind_eq_some_iff.mp read⟩
    simpa only [Bool.or_eq_true, not_or, Bool.not_eq_true] using plain

theorem readAssignments_ne_nil {entry : String × String} {entries : List (String × String)}
    (read : readAssignments (envText entry) = some entries) : entries ≠ [] := by
  obtain ⟨-, found, split, each⟩ := readAssignments_some read
  have some_ := items_nonempty split (.inr ⟨'=', by simp [envText], by decide⟩)
  rintro rfl
  have same := (mapM_eq_some_iff.mp each).length_eq
  exact some_ (List.length_eq_zero_iff.mp same)

theorem readAssignments_iff {entry : String × String} : readAssignments (envText entry) = some [entry] ↔ PlainEntry entry := by
  constructor
  · intro read
    obtain ⟨⟨backslash, specifier⟩, found, split, each⟩ := readAssignments_some read
    obtain ⟨item, rfl, assigned⟩ : ∃ item, found = [item] ∧ readAssignment item = some entry := by
      cases mapM_eq_some_iff.mp each with
      | cons first rest =>
          cases rest
          exact ⟨_, rfl, first⟩
    obtain ⟨valid, rfl⟩ := readAssignment_iff.mp assigned
    have unblank := (items_envText valid).mp split
    refine ⟨valid, hasSpecifier_envText valid ▸ specifier, fun c member => ⟨unblank c member, ?_⟩⟩
    rintro rfl
    simp [envText, member] at backslash
  · rintro ⟨valid, specifier, plain⟩
    have bare : '\\' ∉ envText entry := by
      refine notMem_append (notMem_name (by decide) valid) ?_
      rw [List.mem_cons, not_or]
      exact ⟨by decide, fun member => (plain _ member).2 rfl⟩
    have backslash : (envText entry).contains '\\' = false := by simpa using bare
    rw [readAssignments, backslash, hasSpecifier_envText valid, specifier,
      (items_envText valid).mpr fun c member => (plain c member).1]
    have assigned : readAssignment (envText entry) = some entry := readAssignment_iff.mpr ⟨valid, rfl⟩
    simp [assigned]

theorem eq_singletons {α : Type*} {lists : List (List α)} {all : List α} (lengths : lists.length = all.length)
    (nonempty : ∀ list ∈ lists, list ≠ []) (flat : lists.flatten = all) : lists = all.map fun a => [a] := by
  induction lists generalizing all with
  | nil =>
      obtain rfl := flat
      rfl
  | cons list lists ih =>
      obtain ⟨first, others⟩ := List.forall_mem_cons.mp nonempty
      obtain ⟨a, rest, rfl⟩ := List.exists_cons_of_ne_nil first
      have longer : lists.length ≤ lists.flatten.length := by
        rw [List.length_flatten, ← List.length_map (f := List.length)]
        refine List.length_le_sum_of_one_le _ fun length member => ?_
        obtain ⟨list, within, rfl⟩ := List.mem_map.mp member
        exact List.length_pos_iff.mpr (others list within)
      obtain rfl : rest = [] := by
        rw [← flat, List.flatten_cons, List.length_append, List.length_cons, List.length_cons] at lengths
        exact List.length_eq_zero_iff.mp (by omega)
      rw [← flat] at lengths ⊢
      have tail : lists = lists.flatten.map fun a => [a] := ih (by simpa using lengths) others rfl
      rw [List.flatten_cons, List.singleton_append, List.map_cons, ← tail]

theorem sublist_of_readAssignments {entry found : String × String} (read : readAssignments (envText entry) = some [found]) :
    Shell.isName found.1.toList = true ∧ (envText found).Sublist (envText entry) := by
  obtain ⟨-, items, split, each⟩ := readAssignments_some read
  obtain ⟨item, member, assigned⟩ := forall₂_mem (mapM_eq_some_iff.mp each) List.mem_cons_self
  obtain ⟨valid, rfl⟩ := readAssignment_iff.mp assigned
  exact ⟨valid, (List.sublist_flatten_of_mem member).trans (items_sublist split)⟩

theorem plain_of_readEnv {env : List (String × String)} {lists : List (List (String × String))}
    (read : (env.map envText).mapM readAssignments = some lists) (same : lists.flatten.Perm env) : ∀ entry ∈ env, PlainEntry entry := by
  have each := List.forall₂_map_left_iff.mp (mapM_eq_some_iff.mp read)
  have nonempty : ∀ list ∈ lists, list ≠ [] := by
    intro list member
    obtain ⟨entry, -, found⟩ := forall₂_mem each member
    exact readAssignments_ne_nil found
  have single := eq_singletons (each.length_eq.symm.trans same.length_eq.symm) nonempty rfl
  rw [single, List.forall₂_map_right_iff] at each
  have valid : ∀ entry ∈ env, Shell.isName entry.1.toList = true := by
    intro entry member
    obtain ⟨source, -, found⟩ := forall₂_mem each (same.mem_iff.mpr member)
    exact (sublist_of_readAssignments found).1
  have shorter : List.Forall₂ List.Sublist (lists.flatten.map envText) (env.map envText) := by
    rw [List.forall₂_map_left_iff, List.forall₂_map_right_iff]
    exact (each.imp fun _ _ found => (sublist_of_readAssignments found).2).flip
  have texts := eq_of_sublists shorter (same.map envText).flatten.length_eq
  have back {entries : List (String × String)} (within : ∀ entry ∈ entries, entry ∈ env) :
      (entries.map envText).map readAssignment = entries.map some := by
    rw [List.map_map]
    exact List.map_congr_left fun entry member => readAssignment_iff.mpr ⟨valid entry (within entry member), rfl⟩
  have whole : lists.flatten = env := by
    have images := congrArg (List.map readAssignment) texts
    rw [back fun entry member => same.mem_iff.mp member, back fun entry member => member] at images
    exact List.map_injective_iff.mpr (fun _ _ => Option.some.inj) images
  rw [whole, List.forall₂_same] at each
  exact fun entry member => readAssignments_iff.mp (each entry member)

theorem readEnv_of_plain {env : List (String × String)} (plain : ∀ entry ∈ env, PlainEntry entry) :
    ∃ lists, (env.map envText).mapM readAssignments = some lists ∧ lists.flatten = env := by
  refine ⟨env.map fun entry => [entry], mapM_eq_some_iff.mpr ?_, (List.flatMap_def ..).symm.trans (List.flatMap_singleton' env)⟩
  rw [List.forall₂_map_left_iff, List.forall₂_map_right_iff, List.forall₂_same]
  exact fun entry member => readAssignments_iff.mpr (plain entry member)

/-! ## Reading a unit back -/

theorem readSystemd_iff {text : Text} : readSystemd text = some spec ↔
    ∃ value, settings "ExecStart" (serviceLines text) = [value] ∧ readCommand value = some spec.words ∧
      ∃ lists, ((settings "Environment" (serviceLines text)).drop 1).mapM readAssignments = some lists ∧ lists.flatten = spec.env := by
  rw [readSystemd]
  constructor
  · intro read
    split at read
    · rename_i value found
      obtain ⟨words, ran, read⟩ := Option.bind_eq_some_iff.mp read
      obtain ⟨lists, assigned, read⟩ := Option.bind_eq_some_iff.mp read
      split at read
      · obtain rfl := Option.some.inj read
        exact ⟨value, found, by simpa [SpawnSpec.words] using ran, lists, assigned, rfl⟩
      · cases read
    · cases read
  · rintro ⟨value, found, ran, lists, assigned, flat⟩
    rw [List.drop_one] at assigned
    simp [found, ran, assigned, flat, SpawnSpec.words]

theorem bare_of_readSystemd {text : Text} (read : readSystemd text = some spec) : BareLines spec := by
  obtain ⟨value, found, ran, lists, assigned, flat⟩ := readSystemd_iff.mp read
  have line {key : String} {value : Text} (member : value ∈ settings key (serviceLines text)) : '\n' ∉ value := by
    obtain ⟨line, within, inside⟩ := mem_settings member
    exact fun feed => mem_serviceLines within (inside _ feed)
  have item {value item : Text} {found : List Text} (bare : '\n' ∉ value) (split : items .between value = some found)
      (member : item ∈ found) : '\n' ∉ item :=
    fun feed => bare (mem_items split member feed)
  constructor
  · obtain ⟨-, shell, flag, command, more, split, command_⟩ := readCommand_some ran
    have bare : '\n' ∉ command := item (line (found ▸ List.mem_cons_self)) split (by simp)
    exact notMem_joined (by decide) fun word member feed => bare (Shell.mem_of_command command_ member feed)
  · intro entry member
    rw [← flat] at member
    obtain ⟨entries, inLists, inEntries⟩ := List.mem_flatten.mp member
    obtain ⟨value, inValues, assigns⟩ := forall₂_mem (mapM_eq_some_iff.mp assigned) inLists
    obtain ⟨-, found, split, each⟩ := readAssignments_some assigns
    obtain ⟨text, inItems, one⟩ := forall₂_mem (mapM_eq_some_iff.mp each) inEntries
    obtain ⟨-, whole⟩ := readAssignment_iff.mp one
    have bare : '\n' ∉ text := item (line (List.mem_of_mem_drop inValues)) split inItems
    rw [whole] at bare
    exact ⟨fun feed => bare (List.mem_append_left _ feed), fun feed => bare (List.mem_append_right _ (List.mem_cons_of_mem _ feed))⟩

theorem operator_of_plain {word : Text} (plain : Shell.PlainWord word) {c : Char} (operator : Shell.operators.contains c = true) :
    c ∉ word := by
  intro member
  obtain ⟨front, back, split⟩ := List.append_of_mem member
  have literal := plain.literal front c back split
  rw [Shell.expands, operator, Bool.true_or] at literal
  simp at literal

theorem bare_of_plain (plain : PlainSpec .linux spec) : BareLines spec where
  words := notMem_joined (by decide) fun word member => operator_of_plain (plain.1 word member) (by decide)
  env := fun entry member =>
    have ⟨valid, _, value⟩ := plain.2.2.2 entry member
    ⟨notMem_name (by decide) valid, fun feed => (value _ feed).2 (by decide)⟩

theorem carriageReturn_iff (tidy : Tidy .linux svc) : (systemdUnit svc spec).toList.contains '\r' = false ↔
    '\r' ∉ Shell.joined spec.words ∧ ∀ entry ∈ spec.env, '\r' ∉ envText entry := by
  rw [systemdUnit_toList, List.contains_eq_mem, decide_eq_false_iff_not, String.toList_intercalate, List.map_map]
  constructor
  · intro bare
    constructor
    · intro member
      have listed : execLine spec ∈ unitBack spec := List.mem_cons_self
      refine bare (mem_intercalate_of_mem (List.mem_append_right _ (List.mem_cons_of_mem _ listed)) ?_)
      exact List.mem_append_left _ (List.mem_append_right _ member)
    · intro entry member within
      refine bare (mem_intercalate_of_mem (List.mem_append_right _ List.mem_cons_self) ?_)
      refine mem_intercalate_of_mem (List.mem_map_of_mem member) ?_
      simp only [Function.comp_apply]
      rw [show ("Environment=" ++ entry.1 ++ "=" ++ entry.2).toList = envLine entry from rfl, envLine_eq]
      exact List.mem_append_right _ within
  · rintro ⟨words, env⟩ member
    rcases mem_of_mem_intercalate member with separator | ⟨piece, within, found⟩
    · exact absurd separator (by decide)
    rcases List.mem_append.mp within with front | rest
    · exact bare_unitFront (c := '\r') (by simp) tidy piece front found
    rcases List.mem_cons.mp rest with rfl | back
    · rcases mem_of_mem_intercalate found with separator | ⟨line, inLines, inside⟩
      · exact absurd separator (by decide)
      obtain ⟨entry, inEnv, rfl⟩ := List.mem_map.mp inLines
      have line : '\r' ∈ envLine entry := inside
      rw [envLine_eq] at line
      rcases List.mem_append.mp line with key | text
      · exact absurd key (by decide)
      · exact env entry inEnv text
    · exact bare_unitBack (c := '\r') (by simp) words piece back found

theorem readBack_some {platform : Platform} {text : String} {read : SpawnSpec} : readBack platform text = some read ↔
    text.toList.contains '\r' = false ∧
      (match platform with
        | .linux => readSystemd text.toList
        | .macos _ => readPlist text.toList) = some read := by
  rw [readBack.eq_def]
  cases text.toList.contains '\r' with
  | true => simp
  | false =>
      cases platform with
      | linux | macos username => simp

theorem readBack_linux_some {read : SpawnSpec} : readBack .linux (generateUnitContents .linux svc spec) = some read ↔
    (systemdUnit svc spec).toList.contains '\r' = false ∧ readSystemd (systemdUnit svc spec).toList = some read := by
  rw [generateUnitContents]
  exact readBack_some

theorem readBack_linux_iff (tidy : Tidy .linux svc) (bare : BareLines spec)
    (returns : (systemdUnit svc spec).toList.contains '\r' = false) {read : SpawnSpec} :
    readBack .linux (generateUnitContents .linux svc spec) = some read ↔
      readCommand ("/bin/bash -lc '".toList ++ Shell.joined spec.words ++ [Shell.apostrophe]) = some read.words ∧
        ∃ lists, (spec.env.map envText).mapM readAssignments = some lists ∧ lists.flatten = read.env := by
  obtain ⟨exec, env⟩ := settings_systemdUnit tidy bare
  rw [readBack_linux_some, and_iff_right returns, readSystemd_iff, exec, env]
  exact ⟨fun ⟨_, same, ran, rest⟩ => ⟨(List.singleton_inj.mp same) ▸ ran, rest⟩, fun ⟨ran, rest⟩ => ⟨_, rfl, ran, rest⟩⟩

theorem words_of_same {read : SpawnSpec} (same : read.Same spec) : read.words = spec.words := by
  rw [SpawnSpec.words, SpawnSpec.words, same.1, same.2.1]

theorem plain_of_readBack_linux (tidy : Tidy .linux svc) {read : SpawnSpec}
    (found : readBack .linux (generateUnitContents .linux svc spec) = some read) (same : read.Same spec) : PlainSpec .linux spec := by
  have words := words_of_same same
  obtain ⟨returns, readSpec⟩ := readBack_linux_some.mp found
  have bare : BareLines spec := by
    have bareRead := bare_of_readSystemd readSpec
    exact ⟨words ▸ bareRead.words, fun entry member => bareRead.env entry (same.2.2.mem_iff.mpr member)⟩
  obtain ⟨ran, lists, assigned, flat⟩ := (readBack_linux_iff tidy bare returns).mp found
  rw [words] at ran
  obtain ⟨plainWords, special, specifier⟩ := (readCommand_iff spec).mp ran
  have entries := plain_of_readEnv assigned (flat ▸ same.2.2)
  obtain ⟨noReturn, noReturnEnv⟩ := (carriageReturn_iff tidy).mp returns
  refine ⟨plainWords, special, ⟨noReturn, specifier⟩, fun entry member => ?_⟩
  obtain ⟨valid, noSpecifier, rest⟩ := entries entry member
  refine ⟨valid, noSpecifier, fun c within => ⟨(rest c within).1, ?_⟩⟩
  simp only [List.mem_cons, List.not_mem_nil, or_false, not_or]
  refine ⟨?_, ?_, (rest c within).2⟩
  · rintro rfl
    exact (bare.env entry member).2 within
  · rintro rfl
    exact noReturnEnv entry member (List.mem_append_right _ (List.mem_cons_of_mem _ within))

theorem readBack_linux (tidy : Tidy .linux svc) (plain : PlainSpec .linux spec) :
    readBack .linux (generateUnitContents .linux svc spec) = some spec := by
  obtain ⟨plainWords, special, ⟨words, specifier⟩, entries⟩ := id plain
  have returns : (systemdUnit svc spec).toList.contains '\r' = false := by
    refine (carriageReturn_iff tidy).mpr ⟨words, fun entry member => ?_⟩
    obtain ⟨valid, -, rest⟩ := entries entry member
    refine notMem_append (notMem_name (by decide) valid) ?_
    rw [List.mem_cons, not_or]
    exact ⟨by decide, fun within => (rest _ within).2 (by decide)⟩
  refine (readBack_linux_iff tidy (bare_of_plain plain) returns).mpr
    ⟨(readCommand_iff spec).mpr ⟨plainWords, special, specifier⟩, readEnv_of_plain fun entry member => ?_⟩
  obtain ⟨valid, noSpecifier, rest⟩ := entries entry member
  refine ⟨valid, noSpecifier, fun c within => ⟨(rest c within).1, ?_⟩⟩
  rintro rfl
  exact (rest _ within).2 (by decide)

end MacMgmt.Proof.UnitFiles
