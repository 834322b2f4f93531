import MacMgmt.Server.HealerApproval

/-!
# What a healer session keeps of its approval and its context
-/

namespace MacMgmt.Proof.Server.Approval
open Lib MacMgmt.Server.Approval HealerSession
open MacMgmt.Server (SessionState Json)

variable {state after : HealerSession} {created req : SpawnRequest} {data : StateData} {row : SessionRow}

/-! ## Tools -/

theorem observes_of_diagnosis (access : InstanceAccess) :
    ∀ tool ∈ allTools access true ++ allSettingsTools true ++ access.context7.map HealerTool.context7,
      tool.risk ≠ .destructive ∧ tool.changesSettings = false := by
  obtain ⟨hasCluster, hasMetrics, context7⟩ := access
  have fixed : (allTools ⟨hasCluster, hasMetrics, context7⟩ true ++ allSettingsTools true).all
      (fun tool => decide (tool.risk ≠ .destructive) && !tool.changesSettings) = true := by
    cases hasCluster <;> cases hasMetrics <;> rfl
  intro tool member
  rcases List.mem_append.mp member with own | documented
  · simpa using List.all_eq_true.mp fixed tool own
  · obtain ⟨name, -, rfl⟩ := List.mem_map.mp documented
    exact ⟨by simp [HealerTool.risk], rfl⟩

/-! ## Data -/

def ContextSound (created : SpawnRequest) (data : StateData) : Prop :=
  ∀ key ∈ ["cluster_name", "hostname", "file_tunnels", "shell_tunnels", "fix_provider", "fix_model"],
    data.lookup key = none ∨ data.lookup key = (stateData created).lookup key

theorem contextSound_stateData (created : SpawnRequest) : ContextSound created (stateData created) := fun _ _ => .inr rfl

theorem contextSound_of_same (sound : ContextSound created data) {new : StateData}
    (same : ∀ key ∈ keptKeys, new.lookup key = data.lookup key) : ContextSound created new := by
  intro key listed
  rw [same key (by revert listed; simp [keptKeys]; tauto)]
  exact sound key listed

theorem contextSound_of_none {new : StateData} (gone : ∀ key ∈ keptKeys, new.lookup key = none) : ContextSound created new := by
  intro key listed
  exact .inl (gone key (by revert listed; simp [keptKeys]; tauto))

theorem lookup_approvedRow (row : SessionRow) (key : String) (auto : key ≠ "auto_approve") (reason : key ≠ "reason") :
    (approvedRow row).data.lookup key = row.data.lookup key := by
  rw [approvedRow, Json.lookup_insertField, if_neg reason, Json.lookup_insertField, if_neg auto]

theorem autoApprove_approvedRow (row : SessionRow) : (approvedRow row).data.lookup "auto_approve" = some (.bool true) := by
  rw [approvedRow, Json.lookup_insertField, if_neg (by decide), Json.lookup_insertField, if_pos rfl]

theorem contextSound_approvedRow (sound : ContextSound created row.data) : ContextSound created (approvedRow row).data := by
  intro key listed
  rw [lookup_approvedRow row key]
  · exact sound key listed
  · rintro rfl
    simp at listed
  · rintro rfl
    simp at listed

theorem readStr_fix {key : String} {kept : Option String} (sound : data.lookup key = none ∨ data.lookup key = some (ofOption kept))
    (gone : data.lookup key = none → kept = none) : readStr data key = kept := by
  rcases sound with none_ | held
  · rw [readStr, none_, gone none_]
    rfl
  · rw [readStr, held]
    cases kept <;> rfl

theorem readStr_name {key kept : String} (sound : data.lookup key = none ∨ data.lookup key = some (.string kept))
    (gone : data.lookup key = none → kept = "") : (readStr data key).getD "" = kept := by
  rcases sound with none_ | held
  · rw [readStr, none_, gone none_]
    rfl
  · rw [readStr, held]
    rfl

theorem getD_tunnels {key : String} {kept : Json} (sound : data.lookup key = none ∨ data.lookup key = some kept)
    (gone : data.lookup key = none → kept = .null) : (data.lookup key).getD .null = kept := by
  rcases sound with none_ | held
  · rw [none_, gone none_]
    rfl
  · rw [held]
    rfl

theorem sameContext_resumeRequest (sound : ContextSound created row.data) (carries : Carries created row.data)
    {afterApproval : Bool} (provider : afterApproval = true → created.fixProvider = none ∨ row.provider = created.fixProvider)
    (model : afterApproval = true → created.fixModel = none ∨ row.model = created.fixModel) :
    SameContext created (resumeRequest row) afterApproval where
  clusterName := readStr_name (sound "cluster_name" (by simp)) carries.1
  hostname := readStr_name (sound "hostname" (by simp)) carries.2.1
  fileTunnels := getD_tunnels (sound "file_tunnels" (by simp)) carries.2.2.1
  shellTunnels := getD_tunnels (sound "shell_tunnels" (by simp)) carries.2.2.2
  provider approved value fix := by
    rcases provider approved with none_ | same
    · rw [none_] at fix
      cases fix
    · exact same.trans fix
  model approved value fix := by
    rcases model approved with none_ | same
    · rw [none_] at fix
      cases fix
    · exact same.trans fix

/-! ## The invariant -/

structure LaunchSound (created : SpawnRequest) (approved : Bool) (launch : Launch) : Prop where
  granted : launch.req.autoApprove = true → created.autoApprove = true ∨ approved = true ∨ launch.approval = true
  keeps : launch.entitled = true → launch.req.autoApprove = true
  context : launch.resumed = true → SameContext created launch.req launch.afterApproval

structure RowSound (created : SpawnRequest) (row : SessionRow) : Prop where
  context : ContextSound created row.data
  carries : Carries created row.data
  provider : row.data.lookup "fix_provider" = none → created.fixProvider = none
  model : row.data.lookup "fix_model" = none → created.fixModel = none

def OperationSound (created : SpawnRequest) (approved : Bool) : SessionOperation → Prop
  | .launching launch => LaunchSound created approved launch
  | .approving row => RowSound created row
  | _ => True

/-- What `auto_approve` may be, where an approval has or has not been stored. -/
def AutoSound (created : SpawnRequest) (granted : Prop) (data : StateData) : Prop :=
  data.lookup "auto_approve" = none ∨ data.lookup "auto_approve" = some (.bool true) ∨
    data.lookup "auto_approve" = some (.bool created.autoApprove) ∧ ¬ granted

structure Sound (state : HealerSession) : Prop where
  context : ContextSound state.created state.row.data
  auto : AutoSound state.created (state.approved = true ∨ ApprovalPending state) state.row.data
  operations : ∀ op operation, state.operations.lookup op = some operation →
    OperationSound state.created state.approved operation
  agent : ∀ agent, state.agent = some agent →
    LaunchSound state.created state.approved agent.launch ∧ (agent.launch.approval = true → state.approved = true)
  asked : state.row.state = .awaitingApproval → ∀ agent, state.agent = some agent → agent.asked = true
  stays : state.strayed = false

theorem AutoSound.weaken {granted fewer : Prop} (sound : AutoSound created granted data) (fewerGranted : fewer → granted) :
    AutoSound created fewer data := by
  rcases sound with none_ | approved | ⟨held, free⟩
  · exact .inl none_
  · exact .inr (.inl approved)
  · exact .inr (.inr ⟨held, fun granted => free (fewerGranted granted)⟩)

theorem AutoSound.of_same {granted : Prop} (sound : AutoSound created granted data) {new : StateData}
    (same : new.lookup "auto_approve" = data.lookup "auto_approve") : AutoSound created granted new := by
  rw [AutoSound, same]
  exact sound

theorem LaunchSound.grow {approved more : Bool} {launch : Launch} (sound : LaunchSound created approved launch)
    (grows : approved = true → more = true) : LaunchSound created more launch :=
  ⟨fun auto => (sound.granted auto).imp_right (Or.imp_left grows), sound.keeps, sound.context⟩

theorem OperationSound.grow {approved more : Bool} {operation : SessionOperation}
    (sound : OperationSound created approved operation) (grows : approved = true → more = true) :
    OperationSound created more operation := by
  cases operation with
  | launching launch => exact LaunchSound.grow sound grows
  | approving row => exact sound
  | initializing => trivial
  | failing => trivial

def isApproval : SessionOperation → Bool
  | .launching launch => launch.approval
  | _ => false

theorem approvalPending_iff : ApprovalPending state ↔
    ∃ op operation, state.operations.lookup op = some operation ∧ isApproval operation = true := by
  constructor
  · rintro ⟨op, launch, found, approval⟩
    exact ⟨op, _, found, approval⟩
  · rintro ⟨op, operation, found, approval⟩
    cases operation with
    | launching launch => exact ⟨op, launch, found, approval⟩
    | initializing => cases approval
    | approving row => cases approval
    | failing => cases approval

theorem approvalPending_begin {op : Nat} {operation : SessionOperation} (pending : ApprovalPending (state.begin op operation)) :
    isApproval operation = true ∨ ApprovalPending state := by
  rw [approvalPending_iff] at pending
  obtain ⟨other, found, looked, approval⟩ := pending
  rw [HealerSession.begin, Table.lookup_insert_ite] at looked
  split at looked
  · cases looked
    exact .inl approval
  · exact .inr (approvalPending_iff.mpr ⟨other, found, looked, approval⟩)

theorem approvalPending_finish {op : Nat} (pending : ApprovalPending (state.finish op)) : ApprovalPending state := by
  obtain ⟨other, launch, looked, approval⟩ := pending
  rw [HealerSession.finish, Table.lookup_erase_ite] at looked
  split at looked
  · cases looked
  · exact ⟨other, launch, looked, approval⟩

theorem entitled_iff : state.entitled = true ↔ state.created.autoApprove = true ∨ state.approved = true := Bool.or_eq_true_iff

/-! ## Operations begin and end -/

theorem Sound.begin (sound : Sound state) {op : Nat} {operation : SessionOperation}
    (new : OperationSound state.created state.approved operation)
    (stored : isApproval operation = true → AutoSound state.created True state.row.data) :
    Sound (state.begin op operation) := by
  refine ⟨sound.context, ?_, fun other found looked => ?_, sound.agent, sound.asked, sound.stays⟩
  · by_cases approval : isApproval operation = true
    · exact (stored approval).weaken fun _ => trivial
    · exact sound.auto.weaken (Or.imp_right fun pending => (approvalPending_begin pending).resolve_left approval)
  · rw [HealerSession.begin, Table.lookup_insert_ite] at looked
    split at looked
    · cases looked
      exact new
    · exact sound.operations other found looked

theorem Sound.finish (sound : Sound state) (op : Nat) : Sound (state.finish op) := by
  refine ⟨sound.context, sound.auto.weaken (Or.imp_right approvalPending_finish), fun other found looked => ?_, sound.agent,
    sound.asked, sound.stays⟩
  rw [HealerSession.finish, Table.lookup_erase_ite] at looked
  split at looked
  · cases looked
  · exact sound.operations other found looked

theorem Sound.write (sound : Sound state) {allowed : Bool} {new : SessionState} (context : ContextSound state.created data)
    (auto : AutoSound state.created (state.approved = true ∨ ApprovalPending state) data)
    (asked : new = .awaitingApproval → ∀ agent, state.agent = some agent → agent.asked = true)
    (may : state.row.state = .awaitingApproval → new = .awaitingApproval ∨ allowed = true) :
    Sound (state.transitionState allowed new data) := by
  refine ⟨context, auto, sound.operations, sound.agent, asked, ?_⟩
  rw [transitionState, sound.stays, Bool.false_or]
  by_cases awaits : state.row.state = .awaitingApproval
  · rcases may awaits with still | free
    · simp [still]
    · simp [free]
  · simp [awaits]

theorem Sound.resumeLaunch (sound : Sound state) (resumable : Resumable state) :
    LaunchSound state.created state.approved state.resumeLaunch := by
  obtain ⟨carries, kept, notEarly, fix⟩ := resumable
  have auto : state.resumeLaunch.req.autoApprove = true ↔ state.row.data.lookup "auto_approve" = some (.bool true) := by
    change (((state.row.data.lookup "auto_approve").bind asBool).getD false) = true ↔ _
    cases held : state.row.data.lookup "auto_approve" with
    | none => simp
    | some value => cases value <;> simp [asBool]
  refine ⟨fun approved => ?_, fun entitled => ?_, fun _ => ?_⟩
  · have entitled := notEarly (auto.mp approved)
    rw [entitled_iff] at entitled
    exact entitled.imp_right .inl
  · rw [auto]
    have present := kept entitled
    rcases sound.auto with none_ | approved | ⟨held, free⟩
    · exact absurd none_ present
    · exact approved
    · rw [held]
      rcases entitled_iff.mp entitled with created | approved
      · rw [created]
      · exact absurd (.inl approved) free
  · exact sameContext_resumeRequest sound.context carries (fun approved => (fix approved).1) fun approved => (fix approved).2

/-! ## Steps -/

variable {op : Nat}

theorem sound_initialized (sound : Sound state) (careful : Careful state .initialized)
    (taken : state.step .initialized = some after) : Sound after := by
  obtain ⟨elsewhere, notApproved⟩ := careful
  simp only [step] at taken
  split at taken
  · cases taken
    have auto : AutoSound state.created (state.approved = true ∨ ApprovalPending state) (stateData state.created) := by
      cases approve : state.created.autoApprove with
      | true => exact .inr (.inl (by rw [← approve]; rfl))
      | false =>
          obtain ⟨unapproved, settled⟩ := notApproved approve
          refine .inr (.inr ⟨rfl, ?_⟩)
          rintro (approved | pending)
          · rw [unapproved] at approved
            cases approved
          · exact settled pending
    have written : Sound (state.transitionState false .initializing (stateData state.created)) :=
      sound.write (contextSound_stateData _) auto (fun same => by cases same) fun awaits => absurd awaits elsewhere
    refine written.begin ⟨.inl, fun entitled => entitled, fun resumed => by cases resumed⟩ fun approval => by cases approval
  · cases taken

theorem sound_resumed (sound : Sound state) (resumable : Resumable state) :
    Sound (state.begin op (.launching state.resumeLaunch)) :=
  sound.begin (sound.resumeLaunch resumable) fun approval => by cases approval

theorem sound_approve (sound : Sound state) (careful : Careful state (.approve op))
    (taken : state.step (.approve op) = some after) : Sound after := by
  simp only [step] at taken
  split at taken
  · cases taken
  · cases taken
    exact sound.begin ⟨sound.context, careful.1, careful.2.1, careful.2.2⟩ fun approval => by cases approval

theorem launchSound_approved {approved : Bool} (sound : RowSound created row) :
    LaunchSound created approved ⟨resumeRequest (approvedRow row), true, resumeState (approvedRow row), true, true, true⟩ := by
  have auto : (resumeRequest (approvedRow row)).autoApprove = true := by
    rw [resumeRequest, autoApprove_approvedRow]
    rfl
  have carries : Carries created (approvedRow row).data := by
    refine ⟨?_, ?_, ?_, ?_⟩
    · rw [lookup_approvedRow row _ (by decide) (by decide)]
      exact sound.carries.1
    · rw [lookup_approvedRow row _ (by decide) (by decide)]
      exact sound.carries.2.1
    · rw [lookup_approvedRow row _ (by decide) (by decide)]
      exact sound.carries.2.2.1
    · rw [lookup_approvedRow row _ (by decide) (by decide)]
      exact sound.carries.2.2.2
  refine ⟨fun _ => .inr (.inr rfl), fun _ => auto, fun _ => ?_⟩
  refine sameContext_resumeRequest (contextSound_approvedRow sound.context) carries (fun _ => ?_) fun _ => ?_
  · have fix := readStr_fix (sound.context "fix_provider" (by simp)) sound.provider
    cases given : created.fixProvider with
    | none => exact .inl rfl
    | some value =>
        right
        change (readStr row.data "fix_provider").or row.provider = some value
        rw [fix, given, Option.some_or]
  · have fix := readStr_fix (sound.context "fix_model" (by simp)) sound.model
    cases given : created.fixModel with
    | none => exact .inl rfl
    | some value =>
        right
        change (readStr row.data "fix_model").or row.model = some value
        rw [fix, given, Option.some_or]

theorem sound_approved (sound : Sound state) (taken : state.step (.approved op) = some after) : Sound after := by
  simp only [step] at taken
  split at taken
  · rename_i row found
    cases taken
    have held : RowSound state.created row := sound.operations op _ found
    have auto : AutoSound state.created True (approvedRow row).data := .inr (.inl (autoApprove_approvedRow row))
    have written : Sound (state.transitionState true .remediating (approvedRow row).data) :=
      sound.write (contextSound_approvedRow held.context) (auto.weaken fun _ => trivial) (fun same => by cases same)
        fun _ => .inr rfl
    exact written.begin (launchSound_approved held) fun _ => auto
  · cases taken

theorem sound_launch (sound : Sound state) {access : InstanceAccess} (careful : Careful state (.launch op access))
    (taken : state.step (.launch op access) = some after) : Sound after := by
  simp only [step] at taken
  split at taken
  · rename_i launch found
    have launching : LaunchSound state.created state.approved launch := sound.operations op _ found
    split at taken
    · cases taken
      exact sound.finish op
    · cases taken
      have grows : state.approved = true → (state.approved || launch.approval) = true := fun approved => by rw [approved]; rfl
      refine ⟨sound.context, sound.auto.weaken ?_, fun other operation looked => ?_, fun agent same => ?_,
        fun awaits => absurd awaits careful, sound.stays⟩
      · rintro (approved | pending)
        · exact (Bool.or_eq_true_iff.mp approved).imp_right fun approval => ⟨op, launch, found, approval⟩
        · have before : ApprovalPending (state.finish op) := pending
          exact .inr (approvalPending_finish before)
      · exact ((sound.finish op).operations other operation looked).grow grows
      · cases same
        exact ⟨launching.grow grows, fun approval => Bool.or_eq_true_iff.mpr (.inr approval)⟩
  · cases taken

theorem agentAllowed_ne_awaitingApproval (phase : String) :
    SessionState.agentAllowed phase ≠ some .awaitingApproval := by
  unfold SessionState.agentAllowed
  split <;> simp

theorem sound_setPhase (sound : Sound state) {phase reason : String} (careful : Careful state (.setPhase phase reason))
    (taken : state.step (.setPhase phase reason) = some after) : Sound after := by
  simp only [step] at taken
  split at taken
  · rename_i agent found
    split at taken
    · obtain ⟨new, allowed, same⟩ := Option.map_eq_some_iff.mp taken
      have gone : ∀ key ∈ keptKeys, List.lookup key [("reason", Json.string reason)] = none := by
        simp [keptKeys, List.lookup_cons]
      -- an agent that has not asked does not run in a session that awaits approval
      have elsewhere : state.row.state ≠ .awaitingApproval := by
        intro awaits
        have asked := sound.asked awaits agent found
        rw [careful agent found] at asked
        cases asked
      have auto : AutoSound state.created (state.approved = true ∨ ApprovalPending state) [("reason", Json.string reason)] :=
        .inl (gone "auto_approve" (by simp [keptKeys]))
      split at same
      · subst same
        refine ⟨contextSound_of_none gone, auto, sound.operations, fun other same => ?_, fun _ other same => ?_, ?_⟩
        · cases same
          exact sound.agent agent found
        · cases same
          rfl
        · simp [transitionState, sound.stays]
      · rename_i plain
        subst same
        refine sound.write (contextSound_of_none gone) auto (fun awaits => ?_) fun awaits => absurd awaits elsewhere
        rw [awaits] at allowed
        exact absurd allowed (agentAllowed_ne_awaitingApproval phase)
    · cases taken
  · cases taken

theorem sound_manage (sound : Sound state) {new : SessionState} (careful : Careful state (.manage new data))
    (taken : state.step (.manage new data) = some after) : Sound after := by
  obtain ⟨same, cancels⟩ := careful
  cases taken
  refine sound.write (contextSound_of_same sound.context same) (sound.auto.of_same (same "auto_approve" (by simp [keptKeys])))
    (fun awaits => ?_) fun awaits => ?_
  · subst awaits
    rcases cancels with cancelled | ⟨other, -⟩
    · cases cancelled
    · exact absurd rfl other
  · rcases cancels with cancelled | ⟨-, agent, found, notAsked⟩
    · exact .inr (decide_eq_true cancelled)
    · have asked := sound.asked awaits agent found
      rw [notAsked] at asked
      cases asked

theorem sound_fail (sound : Sound state) (careful : Careful state (.fail op)) (taken : state.step (.fail op) = some after) :
    Sound after := by
  simp only [step] at taken
  split at taken
  · cases taken
    have written : Sound (state.transitionState false .failed []) :=
      sound.write (contextSound_of_none fun _ _ => rfl) (.inl rfl) (fun same => by cases same) fun awaits => absurd awaits careful
    exact written.finish op
  · cases taken

theorem sound_buildFailed (sound : Sound state) (taken : state.step (.buildFailed op) = some after) : Sound after := by
  simp only [step] at taken
  split at taken
  · split at taken
    · cases taken
    · cases taken
      have begun : Sound (state.begin op .failing) := sound.begin trivial fun approval => by cases approval
      exact ⟨begun.context, begun.auto, begun.operations, (fun _ same => by cases same), (fun _ _ same => by cases same), begun.stays⟩
  · cases taken

theorem sound_build (sound : Sound state) (taken : state.step .build = some after) : Sound after := by
  simp only [step] at taken
  split at taken
  · rename_i launch access asked found
    cases taken
    refine ⟨sound.context, sound.auto, sound.operations, fun agent same => ?_, fun awaits agent same => ?_, sound.stays⟩
    · cases same
      exact sound.agent ⟨launch, access, false, asked⟩ found
    · cases same
      exact sound.asked awaits ⟨launch, access, false, asked⟩ found
  · cases taken

theorem sound_restart (sound : Sound state) (taken : state.step .restart = some after) : Sound after := by
  cases taken
  refine ⟨sound.context, sound.auto.weaken (Or.imp_right ?_), (fun _ _ looked => by cases looked), (fun _ same => by cases same),
    (fun _ _ same => by cases same), sound.stays⟩
  rintro ⟨_, _, looked, _⟩
  cases looked

theorem sound_step (event : SessionEvent) (sound : Sound state) (careful : Careful state event)
    (taken : state.step event = some after) : Sound after := by
  cases event with
  | initialized => exact sound_initialized sound careful taken
  | resume op =>
      simp only [step] at taken
      split at taken <;> cases taken
      exact sound_resumed sound careful
  | resumeInterrupted op =>
      simp only [step] at taken
      split at taken <;> cases taken
      exact sound_resumed sound careful
  | approve op => exact sound_approve sound careful taken
  | approved op => exact sound_approved sound taken
  | launch op access => exact sound_launch sound careful taken
  | build => exact sound_build sound taken
  | buildFailed op => exact sound_buildFailed sound taken
  | fail op => exact sound_fail sound careful taken
  | setPhase phase reason => exact sound_setPhase sound careful taken
  | manage new data => exact sound_manage sound careful taken
  | useModel provider model =>
      cases taken
      exact ⟨sound.context, sound.auto, sound.operations, sound.agent, sound.asked, sound.stays⟩
  | unregister =>
      cases taken
      exact ⟨sound.context, sound.auto, sound.operations, (fun _ same => by cases same), (fun _ _ same => by cases same), sound.stays⟩
  | giveUp op =>
      cases taken
      exact sound.finish op
  | restart => exact sound_restart sound taken

/-! ## Runs -/

theorem operation_start {operation : SessionOperation} (looked : (start created).operations.lookup op = some operation) :
    operation = .initializing := by
  rw [start, ← AList.insert_empty, Table.lookup_insert_ite] at looked
  split at looked
  · exact (Option.some.inj looked).symm
  · cases looked

theorem sound_start (created : SpawnRequest) : Sound (start created) := by
  refine ⟨contextSound_stateData created, .inr (.inr ⟨rfl, ?_⟩), fun op operation looked => ?_, (fun _ same => by cases same),
    (fun same => by cases same), rfl⟩
  · rintro (approved | ⟨op, launch, looked, -⟩)
    · cases approved
    · cases operation_start looked
  · rw [operation_start looked]
    trivial

theorem Sound.entrusted (sound : Sound state) : Entrusted state := by
  refine ⟨fun created unapproved agent found => ?_, fun agent found _ => (sound.agent agent found).1.keeps, sound.stays,
    fun agent found => (sound.agent agent found).1.context⟩
  obtain ⟨launch, approval⟩ := sound.agent agent found
  have diagnosis : agent.launch.req.autoApprove = false := by
    by_contra approved
    rcases launch.granted (by simpa using approved) with one | two | three
    · rw [created] at one
      cases one
    · rw [unapproved] at two
      cases two
    · rw [approval three] at unapproved
      cases unapproved
  rw [SessionAgent.tools, diagnosis]
  exact observes_of_diagnosis agent.access

theorem always_entrusted {events : List SessionEvent} (careful : Meets step Careful (start created) events) :
    Always step Entrusted (start created) events :=
  (always_of_meets (fun _ event _ sound careful taken => sound_step event sound careful taken) (sound_start created) careful).imp
    fun _ sound => sound.entrusted

def access : InstanceAccess := ⟨true, true, ["docs"]⟩

def office (autoApprove : Bool) (fixModel : Option String) : SpawnRequest :=
  ⟨"office", "mac-1", .array [.string "configs"], .array [.string "status"], some "ollama", some "gemma4", autoApprove, none, fixModel⟩

def bare : SpawnRequest := ⟨"", "", .null, .null, none, none, false, none, none⟩

def running : List SessionEvent := [.initialized, .launch 0 access, .build]

def paused : List SessionEvent :=
  running ++ [.manage .paused (Json.insertField (stateData (office true none)) "reason" (.string "pause")), .unregister,
    .resume 1, .launch 1 access, .build]

def askedAndApproved : List SessionEvent :=
  running ++ [.setPhase "remediating" "disk full", .unregister, .approve 1, .approved 1, .launch 1 access, .build]

theorem always_entrusted_paused_and_approved :
    ((∃ final, run step (start (office true none)) paused = some final) ∧
      Always step Entrusted (start (office true none)) paused) ∧
    (∃ final, run step (start bare) askedAndApproved = some final) ∧ Always step Entrusted (start bare) askedAndApproved := by
  refine ⟨⟨⟨_, rfl⟩, always_entrusted ?_⟩, ⟨_, rfl⟩, always_entrusted ?_⟩
  · refine (meets_cons_iff rfl).mpr ⟨⟨nofun, nofun⟩, (meets_cons_iff rfl).mpr ⟨nofun, (meets_cons_iff rfl).mpr ⟨trivial, ?_⟩⟩⟩
    refine (meets_cons_iff rfl).mpr ⟨⟨fun key listed => ?_, .inr ⟨nofun, _, rfl, rfl⟩⟩, ?_⟩
    · rw [Json.lookup_insertField, if_neg]
      · rfl
      · rintro rfl
        simp [keptKeys] at listed
    refine (meets_cons_iff rfl).mpr ⟨trivial, (meets_cons_iff rfl).mpr ⟨⟨?_, nofun, fun _ => rfl, nofun⟩, ?_⟩⟩
    · exact ⟨nofun, nofun, nofun, nofun⟩
    exact (meets_cons_iff rfl).mpr ⟨nofun, (meets_cons_iff rfl).mpr ⟨trivial, trivial⟩⟩
  · refine (meets_cons_iff rfl).mpr ⟨⟨nofun, fun _ => ⟨rfl, ?_⟩⟩, ?_⟩
    · rintro ⟨_, _, looked, _⟩
      cases operation_start looked
    refine (meets_cons_iff rfl).mpr ⟨nofun, (meets_cons_iff rfl).mpr ⟨trivial, (meets_cons_iff rfl).mpr ⟨?_, ?_⟩⟩⟩
    · intro agent same
      cases same
      rfl
    refine (meets_cons_iff rfl).mpr ⟨trivial, (meets_cons_iff rfl).mpr ⟨⟨?_, fun _ => rfl, fun _ => rfl⟩, ?_⟩⟩
    · exact ⟨fun _ => rfl, fun _ => rfl, fun _ => rfl, fun _ => rfl⟩
    refine (meets_cons_iff rfl).mpr ⟨trivial, (meets_cons_iff rfl).mpr ⟨nofun, (meets_cons_iff rfl).mpr ⟨trivial, trivial⟩⟩⟩

def phased : List SessionEvent :=
  running ++ [.setPhase "remediating" "disk full", .restart, .resumeInterrupted 1, .launch 1 access]

def restarted : List SessionEvent := phased ++ [.build, .setPhase "done" "nothing to do"]

theorem forgets_and_strays :
    (∃ final, run step (start (office true none)) phased = some final ∧ ¬ Entrusted final) ∧
    (∃ final, run step (start bare) restarted = some final ∧ ¬ Entrusted final) ∧
    ∃ final, run step (start (office false (some "claude"))) askedAndApproved = some final ∧ ¬ Entrusted final := by
  refine ⟨⟨_, rfl, fun entrusted => ?_⟩, ⟨_, rfl, fun entrusted => ?_⟩, _, rfl, fun entrusted => ?_⟩
  · have approved := entrusted.keeps _ rfl rfl rfl
    cases approved
  · have stays := entrusted.stays
    cases stays
  · have context := entrusted.context _ rfl rfl
    have model := context.model rfl "claude" rfl
    exact absurd (Option.some.inj model) (by decide)

end MacMgmt.Proof.Server.Approval
