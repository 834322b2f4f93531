import MacMgmt.Runner.Snapshot

/-!
# A cell that is said to be healthy

The verdict is that of the oldest row among those that were found.
-/

namespace MacMgmt.Proof.Runner
open Lib MacMgmt.Runner

variable {now : Int} {staleAfter : Nat} {instances : List InstanceSpec} {rows : List MachineRow} {oldest : MachineRow}

theorem mem_knownRows {row : MachineRow} :
    row ∈ knownRows instances rows ↔
      ∃ inst ∈ instances, rows.find? (fun row => row.instanceId = inst.instanceId) = some row := List.mem_filterMap

theorem age_mono {row : MachineRow} (older : oldest.reportedAt ≤ row.reportedAt) : age now row ≤ age now oldest := by
  unfold age
  omega

theorem allHealthy_of_probes (passes : (oldest.servicesExtended.bind probesHealthy).getD true = true)
    (array : ∀ items, oldest.servicesExtended = some (.array items) → AllHealthy oldest) : AllHealthy oldest := by
  intro svc member
  cases extended : oldest.servicesExtended with
  | none => simp [services, extended] at member
  | some value =>
      cases value with
      | array items => exact array items extended svc member
      | null | bool | number | string => simp [services, extended] at member
      | object fields =>
          obtain ⟨entry, within, rfl⟩ : ∃ entry ∈ fields, entry.2 = svc := by simpa [services, extended] using member
          cases fields with
          | nil => cases within
          | cons first rest =>
              have all : ((first :: rest).all fun entry => flag entry.2 "healthy" && flag entry.2 "last_probe_ok") = true := by
                rw [extended] at passes
                exact passes
              exact ((Bool.and_eq_true _ _).mp (List.all_eq_true.mp all entry within)).1

theorem runningHealth_true_iff :
    (runningHealth now staleAfter instances (.ok rows)).1 = some true ↔
      ∃ oldest, representative instances rows = some oldest ∧ age now oldest < staleAfter ∧
        (oldest.servicesExtended.bind probesHealthy).getD true = true := by
  simp only [runningHealth]
  cases representative instances rows <;> simp

theorem cellHealthy_iff (oldestRow : representative instances rows = some oldest) (fresh : age now oldest < staleAfter)
    (passes : (oldest.servicesExtended.bind probesHealthy).getD true = true) :
    CellHealthy now staleAfter instances rows ↔ OthersHealthy instances rows oldest := by
  have among : oldest ∈ knownRows instances rows := List.argmin_mem oldestRow
  constructor
  · intro healthy
    have known : ∀ row ∈ knownRows instances rows, AllHealthy row := by
      intro row member
      obtain ⟨inst, within, found⟩ := mem_knownRows.mp member
      obtain ⟨other, same, -, all⟩ := healthy inst within
      exact Option.some.inj (same.symm.trans found) ▸ all
    refine ⟨fun inst within => ?_, fun row member _ => known row member, fun _ _ => known oldest among⟩
    obtain ⟨row, found, -, -⟩ := healthy inst within
    exact ⟨row, List.mem_of_find?_eq_some found, by simpa using List.find?_some found⟩
  · intro rest inst within
    obtain ⟨witness, member, same⟩ := rest.present inst within
    have some_ : (rows.find? fun row => row.instanceId = inst.instanceId).isSome :=
      List.find?_isSome.mpr ⟨witness, member, by simpa using same⟩
    obtain ⟨row, found⟩ := Option.isSome_iff_exists.mp some_
    have known := mem_knownRows.mpr ⟨inst, within, found⟩
    have older : oldest.reportedAt ≤ row.reportedAt := List.le_of_mem_argmin known oldestRow
    refine ⟨row, found, (age_mono older).trans_lt fresh, ?_⟩
    by_cases isOldest : row = oldest
    · rw [isOldest]
      exact allHealthy_of_probes passes rest.array
    · exact rest.others row known isOldest

/-- A verdict of health is right, except where the oldest row speaks for others or for an array. -/
theorem running_healthy_iff (now : Int) (staleAfter : Nat) (instances : List InstanceSpec) (rows : List MachineRow) :
    ((runningHealth now staleAfter instances (.ok rows)).1 = some true → CellHealthy now staleAfter instances rows) ↔
      ∀ oldest, representative instances rows = some oldest → age now oldest < staleAfter →
        oldest.servicesExtended.bind probesHealthy ≠ some false → OthersHealthy instances rows oldest := by
  have passes_iff : ∀ verdict : Option Bool, verdict.getD true = true ↔ verdict ≠ some false := by
    rintro (_ | _ | _) <;> simp
  rw [runningHealth_true_iff]
  constructor
  · intro healthy oldest found fresh passes
    have passed := (passes_iff _).mpr passes
    exact (cellHealthy_iff found fresh passed).mp (healthy ⟨oldest, found, fresh, passed⟩)
  · rintro rest ⟨oldest, found, fresh, passed⟩
    exact (cellHealthy_iff found fresh passed).mpr (rest oldest found fresh ((passes_iff _).mp passed))

/-- An array says that its service is not healthy, and one of two nodes has no row. -/
theorem sick_cell_is_healthy :
    ¬ ∀ now staleAfter instances rows, (runningHealth now staleAfter instances (.ok rows)).1 = some true →
      CellHealthy now staleAfter instances rows := by
  intro healthy
  let row : MachineRow := ⟨1, none, "1.0", 0, some (.array [.object [("healthy", .bool false)]])⟩
  obtain ⟨found, same, -, all⟩ := healthy 0 1 [⟨"a", 1, none⟩] [row] (by decide +kernel) _ List.mem_cons_self
  obtain rfl : row = found := Option.some.inj same
  exact absurd (all _ List.mem_cons_self) (by decide)

end MacMgmt.Proof.Runner
