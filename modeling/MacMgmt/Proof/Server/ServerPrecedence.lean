import MacMgmt.Proof.Server.CatalogPackages

/-!
# Which entry of an MCP server is given

Local rows overlay the skill centers, and a direct row overlays a bundle. An entry that a remote skill depends on is put
among the local ones, so it also overlays one that is assigned from a skill center.
-/

namespace MacMgmt.Server.CatalogDb
open Lib

variable (db : CatalogDb) (cluster : Uuid) (cache : SkillCenterCache) (client : SkillCenterClient)

def HasEntry (ids : List Uuid) (slug : String) (entry : McpServerEntry) : Prop :=
  ∃ server ∈ db.joinMcpServers ids, server.slug = slug ∧ server.entry = entry

def LocallyAssigned (slug : String) (entry : McpServerEntry) : Prop :=
  db.HasEntry (db.directMcpServers cluster) slug entry ∨ db.HasEntry (db.bundleMcpServers cluster) slug entry

def Depended (slug : String) (entry : McpServerEntry) : Prop :=
  db.HasEntry (db.transitiveMcpServers cluster) slug entry ∨ ∃ scId, db.SkillOffers cluster cache client scId slug entry

/-- Two skill centers answer a slug that skills depend on differently. -/
def DependencyTie (slug : String) : Prop :=
  ∃ first one second two, db.SkillOffers cluster cache client first slug one ∧ db.SkillOffers cluster cache client second slug two ∧
    one ≠ two

/-- Two skill centers of the highest priority answer an assigned slug differently. -/
def PriorityTie (slug : String) : Prop :=
  ∃ first one second two, db.Offers cluster cache client first slug one ∧ db.Foremost cluster cache client first slug ∧
    db.Offers cluster cache client second slug two ∧ db.Foremost cluster cache client second slug ∧ one ≠ two

/-! ## The local part -/

def layer (ids : List Uuid) (precedence : Nat) : List (String × (McpServerEntry × Nat)) :=
  (db.joinMcpServers ids).map fun row => (row.slug, (row.entry, precedence))

variable {db cluster cache client}

section Layers
variable {ids : List Uuid} {slug : String} {precedence : Nat} {keeps : McpServerEntry × Nat → McpServerEntry × Nat → Bool}
  {table : Table String (McpServerEntry × Nat)}

theorem lookup_layer (fresh : table.lookup slug = none) :
    ((∀ entry, ¬ db.HasEntry ids slug entry) ∧ (Table.fill keeps table (db.layer ids precedence)).lookup slug = none) ∨
      ∃ entry, db.HasEntry ids slug entry ∧
        (Table.fill keeps table (db.layer ids precedence)).lookup slug = some (entry, precedence) := by
  cases found : (Table.fill keeps table (db.layer ids precedence)).lookup slug with
  | none =>
      refine Or.inl ⟨?_, rfl⟩
      rintro entry ⟨server, member, rfl, -⟩
      exact AList.lookup_eq_none.mp found (Table.mem_fill.mpr (Or.inr ⟨_, List.mem_map_of_mem member, rfl⟩))
  | some held =>
      obtain old | member := Table.lookup_fill found
      · rw [fresh] at old
        cases old
      · obtain ⟨server, listed, same⟩ := List.mem_map.mp member
        cases same
        exact Or.inr ⟨server.entry, ⟨server, listed, rfl, rfl⟩, rfl⟩

theorem lookup_layer_kept {held : McpServerEntry × Nat} (found : table.lookup slug = some held)
    (kept : ∀ entry, keeps held (entry, precedence) = true) :
    (Table.fill keeps table (db.layer ids precedence)).lookup slug = some held := by
  apply Table.lookup_fill_kept found
  intro item member _
  obtain ⟨server, -, rfl⟩ := List.mem_map.mp member
  exact kept server.entry

end Layers

theorem localMcpServers_eq : db.localMcpServers cluster =
    Table.fill (fun _ _ => true) (Table.fill (fun old new => old.2 ≥ new.2)
      (Table.fill (fun old new => old.2 ≥ new.2) ∅ (db.layer (db.directMcpServers cluster) 2))
      (db.layer (db.bundleMcpServers cluster) 1)) (db.layer (db.transitiveMcpServers cluster) 0) := by
  rw [← Table.fill_append]
  rfl

/-- The precedence of a local entry is that of the first kind of row that has the slug. -/
inductive LocalEntry (db : CatalogDb) (cluster : Uuid) (slug : String) : Option (McpServerEntry × Nat) → Prop where
  | direct (entry : McpServerEntry) (assigned : db.HasEntry (db.directMcpServers cluster) slug entry) :
      LocalEntry db cluster slug (some (entry, 2))
  | bundle (entry : McpServerEntry) (undirected : ∀ other, ¬ db.HasEntry (db.directMcpServers cluster) slug other)
      (assigned : db.HasEntry (db.bundleMcpServers cluster) slug entry) : LocalEntry db cluster slug (some (entry, 1))
  | transitive (entry : McpServerEntry) (unassigned : ∀ other, ¬ db.LocallyAssigned cluster slug other)
      (depended : db.HasEntry (db.transitiveMcpServers cluster) slug entry) : LocalEntry db cluster slug (some (entry, 0))
  | none (unassigned : ∀ other, ¬ db.LocallyAssigned cluster slug other)
      (undepended : ∀ other, ¬ db.HasEntry (db.transitiveMcpServers cluster) slug other) : LocalEntry db cluster slug .none

theorem localEntry_lookup (db : CatalogDb) (cluster : Uuid) (slug : String) :
    LocalEntry db cluster slug ((db.localMcpServers cluster).lookup slug) := by
  rw [localMcpServers_eq]
  obtain ⟨undirected, fresh⟩ | ⟨entry, assigned, found⟩ := lookup_layer (AList.lookup_empty slug)
  · obtain ⟨unbundled, fresh⟩ | ⟨entry, assigned, found⟩ := lookup_layer fresh
    · have unassigned (other : McpServerEntry) : ¬ db.LocallyAssigned cluster slug other :=
        not_or_intro (undirected other) (unbundled other)
      obtain ⟨undepended, fresh⟩ | ⟨entry, depended, found⟩ := lookup_layer fresh
      · rw [fresh]
        exact .none unassigned undepended
      · rw [found]
        exact .transitive entry unassigned depended
    · rw [lookup_layer_kept found fun _ => rfl]
      exact .bundle entry undirected assigned
  · rw [lookup_layer_kept (lookup_layer_kept found fun _ => rfl) fun _ => rfl]
    exact .direct entry assigned

/-! ## The skill centers -/

section Centers
variable {order other : Traversal Uuid} {slug : String}

theorem skillDeps_eq_none_iff : (db.resolveRemoteSkillMcpDeps cluster cache client order).lookup slug = none ↔
    ∀ scId entry, ¬ db.SkillOffers cluster cache client scId slug entry := by
  constructor
  · rintro silent scId entry ⟨slugs, asked, offered⟩
    have unanswered := Table.lookup_layers_map_eq_none.mp silent ⟨scId, slugs⟩ (order.mem_entries.mpr asked)
    rw [offered] at unanswered
    cases unanswered
  · intro unoffered
    rw [Option.eq_none_iff_forall_ne_some]
    intro entry found
    obtain ⟨scId, offers⟩ := skillOffers_of_lookup found
    exact unoffered scId entry offers

theorem aggregated_eq_none_iff : (db.aggregateRemoteMcpServers cluster cache client order).lookup slug = none ↔
    ∀ scId entry, ¬ db.Offers cluster cache client scId slug entry := by
  constructor
  · rintro silent scId entry ⟨slugs, asked, offered⟩
    have unanswered := Table.lookup_layers_map_eq_none.mp silent ⟨scId, slugs⟩ (mem_ordered.mpr asked)
    rw [offered] at unanswered
    cases unanswered
  · intro unoffered
    rw [Option.eq_none_iff_forall_ne_some]
    intro entry found
    obtain ⟨scId, offers, -⟩ := offers_of_lookup found
    exact unoffered scId entry offers

theorem skillDeps_steady (untied : ¬ db.DependencyTie cluster cache client slug) :
    (db.resolveRemoteSkillMcpDeps cluster cache client order).lookup slug =
      (db.resolveRemoteSkillMcpDeps cluster cache client other).lookup slug := by
  cases one : (db.resolveRemoteSkillMcpDeps cluster cache client order).lookup slug with
  | none => exact (skillDeps_eq_none_iff.mpr (skillDeps_eq_none_iff.mp one)).symm
  | some first =>
      obtain ⟨firstId, offersFirst⟩ := skillOffers_of_lookup one
      cases two : (db.resolveRemoteSkillMcpDeps cluster cache client other).lookup slug with
      | none => exact absurd offersFirst (skillDeps_eq_none_iff.mp two firstId first)
      | some second =>
          obtain ⟨secondId, offersSecond⟩ := skillOffers_of_lookup two
          by_contra different
          exact untied ⟨firstId, first, secondId, second, offersFirst, offersSecond, fun same => different (congrArg some same)⟩

theorem aggregated_steady (untied : ¬ db.PriorityTie cluster cache client slug) :
    (db.aggregateRemoteMcpServers cluster cache client order).lookup slug =
      (db.aggregateRemoteMcpServers cluster cache client other).lookup slug := by
  cases one : (db.aggregateRemoteMcpServers cluster cache client order).lookup slug with
  | none => exact (aggregated_eq_none_iff.mpr (aggregated_eq_none_iff.mp one)).symm
  | some first =>
      obtain ⟨firstId, offersFirst, foremostFirst⟩ := offers_of_lookup one
      cases two : (db.aggregateRemoteMcpServers cluster cache client other).lookup slug with
      | none => exact absurd offersFirst (aggregated_eq_none_iff.mp two firstId first)
      | some second =>
          obtain ⟨secondId, offersSecond, foremostSecond⟩ := offers_of_lookup two
          by_contra different
          exact untied ⟨firstId, first, secondId, second, offersFirst, foremostFirst, offersSecond, foremostSecond,
            fun same => different (congrArg some same)⟩

end Centers

/-! ## The response -/

section Response
variable {dependencyOrder order : Traversal Uuid} {slug : String} {entry : McpServerEntry}

theorem lookup_of_local {precedence : Nat} (held : (db.localMcpServers cluster).lookup slug = some (entry, precedence)) :
    (db.getMcpServers cluster cache client dependencyOrder order).lookup slug = some entry := by
  rw [lookup_getMcpServers, held]
  rfl

theorem lookup_without_local (absent : (db.localMcpServers cluster).lookup slug = none) :
    (db.getMcpServers cluster cache client dependencyOrder order).lookup slug =
      ((db.resolveRemoteSkillMcpDeps cluster cache client dependencyOrder).lookup slug).or
        ((db.aggregateRemoteMcpServers cluster cache client order).lookup slug) := by
  rw [lookup_getMcpServers, absent]
  rfl

theorem lookup_direct (assigned : db.HasEntry (db.directMcpServers cluster) slug entry) :
    ∃ given, db.HasEntry (db.directMcpServers cluster) slug given ∧
      (db.getMcpServers cluster cache client dependencyOrder order).lookup slug = some given := by
  have kind := localEntry_lookup db cluster slug
  generalize held : (db.localMcpServers cluster).lookup slug = found at kind
  cases kind with
  | direct given first => exact ⟨given, first, lookup_of_local held⟩
  | bundle _ undirected => exact absurd assigned (undirected entry)
  | transitive _ unassigned => exact absurd (Or.inl assigned) (unassigned entry)
  | none unassigned => exact absurd (Or.inl assigned) (unassigned entry)

theorem lookup_bundle (undirected : ∀ other, ¬ db.HasEntry (db.directMcpServers cluster) slug other)
    (assigned : db.HasEntry (db.bundleMcpServers cluster) slug entry) :
    ∃ given, db.HasEntry (db.bundleMcpServers cluster) slug given ∧
      (db.getMcpServers cluster cache client dependencyOrder order).lookup slug = some given := by
  have kind := localEntry_lookup db cluster slug
  generalize held : (db.localMcpServers cluster).lookup slug = found at kind
  cases kind with
  | direct other first => exact absurd first (undirected other)
  | bundle given _ first => exact ⟨given, first, lookup_of_local held⟩
  | transitive _ unassigned => exact absurd (Or.inr assigned) (unassigned entry)
  | none unassigned => exact absurd (Or.inr assigned) (unassigned entry)

end Response

/-- What the response has for a slug. Nothing is said of a slug that is assigned from a skill center and is a dependency too,
nor of the entry that wins a tie. -/
structure Resolves (db : CatalogDb) (cluster : Uuid) (cache : SkillCenterCache) (client : SkillCenterClient)
    (dependencyOrder order : Traversal Uuid) (slug : String) : Prop where
  direct : (∃ entry, db.HasEntry (db.directMcpServers cluster) slug entry) →
    ∃ entry, db.HasEntry (db.directMcpServers cluster) slug entry ∧
      (db.getMcpServers cluster cache client dependencyOrder order).lookup slug = some entry
  bundle : (∀ entry, ¬ db.HasEntry (db.directMcpServers cluster) slug entry) →
    (∃ entry, db.HasEntry (db.bundleMcpServers cluster) slug entry) →
      ∃ entry, db.HasEntry (db.bundleMcpServers cluster) slug entry ∧
        (db.getMcpServers cluster cache client dependencyOrder order).lookup slug = some entry
  assigned : (∀ entry, ¬ db.LocallyAssigned cluster slug entry) → (∀ entry, ¬ db.Depended cluster cache client slug entry) →
    (∃ scId entry, db.Offers cluster cache client scId slug entry) →
      ∃ scId entry, db.Offers cluster cache client scId slug entry ∧ db.Foremost cluster cache client scId slug ∧
        (db.getMcpServers cluster cache client dependencyOrder order).lookup slug = some entry
  depended : (∀ entry, ¬ db.LocallyAssigned cluster slug entry) →
    (∀ scId entry, ¬ db.Offers cluster cache client scId slug entry) → (∃ entry, db.Depended cluster cache client slug entry) →
      ∃ entry, db.Depended cluster cache client slug entry ∧
        (db.getMcpServers cluster cache client dependencyOrder order).lookup slug = some entry
  absent : (∀ entry, ¬ db.LocallyAssigned cluster slug entry) → (∀ entry, ¬ db.Depended cluster cache client slug entry) →
    (∀ scId entry, ¬ db.Offers cluster cache client scId slug entry) →
      (db.getMcpServers cluster cache client dependencyOrder order).lookup slug = none
  steady : (∃ entry, db.LocallyAssigned cluster slug entry) ∨
      ¬ db.DependencyTie cluster cache client slug ∧ ¬ db.PriorityTie cluster cache client slug →
    ∀ otherDependencies other, (db.getMcpServers cluster cache client otherDependencies other).lookup slug =
      (db.getMcpServers cluster cache client dependencyOrder order).lookup slug

theorem getMcpServers_resolves (db : CatalogDb) (cluster : Uuid) (cache : SkillCenterCache) (client : SkillCenterClient)
    (dependencyOrder order : Traversal Uuid) (slug : String) :
    Resolves db cluster cache client dependencyOrder order slug := by
  have kind := localEntry_lookup db cluster slug
  generalize held : (db.localMcpServers cluster).lookup slug = found at kind
  refine ⟨fun ⟨_, assigned⟩ => lookup_direct assigned, fun undirected ⟨_, assigned⟩ => lookup_bundle undirected assigned,
    ?_, ?_, ?_, ?_⟩
  · rintro unassigned undepended ⟨scId, entry, offers⟩
    cases kind with
    | direct other first => exact absurd (Or.inl first) (unassigned other)
    | bundle other _ first => exact absurd (Or.inr first) (unassigned other)
    | transitive other _ depended => exact absurd (Or.inl depended) (undepended other)
    | none =>
        have silent : (db.resolveRemoteSkillMcpDeps cluster cache client dependencyOrder).lookup slug = none :=
          skillDeps_eq_none_iff.mpr fun other entry offers => undepended entry (Or.inr ⟨other, offers⟩)
        rw [lookup_without_local held, silent, Option.none_or]
        cases answered : (db.aggregateRemoteMcpServers cluster cache client order).lookup slug with
        | none => exact absurd offers (aggregated_eq_none_iff.mp answered scId entry)
        | some given =>
            obtain ⟨winner, offered, foremost⟩ := offers_of_lookup answered
            exact ⟨winner, given, offered, foremost, rfl⟩
  · rintro unassigned unoffered ⟨entry, needed⟩
    cases kind with
    | direct other first => exact absurd (Or.inl first) (unassigned other)
    | bundle other _ first => exact absurd (Or.inr first) (unassigned other)
    | transitive given _ depended => exact ⟨given, Or.inl depended, lookup_of_local held⟩
    | none _ undepended =>
        rw [lookup_without_local held, aggregated_eq_none_iff.mpr unoffered, Option.or_none]
        cases answered : (db.resolveRemoteSkillMcpDeps cluster cache client dependencyOrder).lookup slug with
        | none =>
            obtain stored | ⟨scId, offers⟩ := needed
            · exact absurd stored (undepended entry)
            · exact absurd offers (skillDeps_eq_none_iff.mp answered scId entry)
        | some given => exact ⟨given, Or.inr (skillOffers_of_lookup answered), rfl⟩
  · intro unassigned undepended unoffered
    cases kind with
    | direct other first => exact absurd (Or.inl first) (unassigned other)
    | bundle other _ first => exact absurd (Or.inr first) (unassigned other)
    | transitive other _ depended => exact absurd (Or.inl depended) (undepended other)
    | none =>
        rw [lookup_without_local held, aggregated_eq_none_iff.mpr unoffered, Option.or_none]
        exact skillDeps_eq_none_iff.mpr fun other entry offers => undepended entry (Or.inr ⟨other, offers⟩)
  · intro settled otherDependencies other
    cases kind with
    | direct entry => rw [lookup_of_local held, lookup_of_local held]
    | bundle entry => rw [lookup_of_local held, lookup_of_local held]
    | transitive entry => rw [lookup_of_local held, lookup_of_local held]
    | none unassigned =>
        obtain ⟨entry, assigned⟩ | ⟨noDependencyTie, noPriorityTie⟩ := settled
        · exact absurd assigned (unassigned entry)
        · rw [lookup_without_local held, lookup_without_local held, skillDeps_steady noDependencyTie,
            aggregated_steady noPriorityTie]

/-! ## Precedence over all sources -/

section Claimed
variable (db : CatalogDb) (cluster : Uuid) (cache : SkillCenterCache) (client : SkillCenterClient)

def DirectEntry (slug : String) (entry : McpServerEntry) : Prop :=
  db.HasEntry (db.directMcpServers cluster) slug entry ∨
    ∃ scId, (scId, slug) ∈ db.directRemoteMcpServers cluster ∧ db.Offers cluster cache client scId slug entry

def AssignedEntry (slug : String) (entry : McpServerEntry) : Prop :=
  db.LocallyAssigned cluster slug entry ∨ ∃ scId, db.Offers cluster cache client scId slug entry

/-- A slug for which there is such an entry is given one of them. -/
def Wins (among : String → McpServerEntry → Prop) : Prop :=
  ∀ dependencyOrder order slug, (∃ entry, among slug entry) →
    ∃ entry, among slug entry ∧ (db.getMcpServers cluster cache client dependencyOrder order).lookup slug = some entry

def OrderFree : Prop :=
  ∀ dependencyOrder order otherDependencies other,
    db.getMcpServers cluster cache client dependencyOrder order = db.getMcpServers cluster cache client otherDependencies other

end Claimed

/-- The bundled server files is also assigned from center 7, search from center 8 while the skill of center 7 depends on it,
and notes from both centers, which have one priority. -/
def mixedDb : CatalogDb where
  mcpServers := AList.insert 5 ⟨"files", .string "local", []⟩ ∅
  mcpServerBundleItems := [(4, 5)]
  skills := ∅
  skillChannels := ∅
  bundleItems := []
  skillMcpDependencies := ∅
  clusterMcpServers := [⟨1, none, some 7, some "files"⟩, ⟨1, none, some 8, some "search"⟩, ⟨1, none, some 7, some "notes"⟩,
    ⟨1, none, some 8, some "notes"⟩]
  clusterMcpBundles := [⟨1, some 4, none, none⟩]
  clusterSkills := [⟨1, none, some 7, some "writer", some "stable"⟩]
  clusterBundles := []
  clusterPackages := []
  skillCenters := AList.insert 8 ⟨"eight", "token", 10, true⟩ (AList.insert 7 ⟨"seven", "token", 10, true⟩ ∅)

def urlEntry (url : String) : McpServerEntry := ⟨.string url, []⟩

def urlClient : SkillCenterClient where
  resolveMcpServers url _ slugs := some (Table.fill (fun _ _ => true) ∅ (slugs.map fun slug => (slug, urlEntry url)))
  resolveSkills _ _ _ _ := some ∅

theorem mixed_offers {scId : Uuid} {slug : String} {entry : McpServerEntry}
    (offers : mixedDb.Offers 1 writerCache urlClient scId slug entry) :
    (slug = "files" ∨ slug = "notes") ∧ entry = urlEntry "seven" ∨
      (slug = "search" ∨ slug = "notes") ∧ entry = urlEntry "eight" := by
  obtain ⟨slugs, asked, offered⟩ := offers
  have entries : (Table.group (mixedDb.remoteMcpServers 1 writerCache)).entries =
      [⟨8, ["search", "notes"]⟩, ⟨7, ["files", "notes"]⟩] := by
    decide
  have member := AList.mem_lookup_iff.mp asked
  rw [entries, List.mem_cons, List.mem_singleton] at member
  obtain same | same := member
  · cases same
    obtain none | listed := Table.lookup_fill (show (Table.fill (fun _ _ => true) ∅
      (["search", "notes"].map fun slug => (slug, urlEntry "eight"))).lookup slug = some entry from offered)
    · cases none
    · exact Or.inr (by simpa [or_and_right] using listed)
  · cases same
    obtain none | listed := Table.lookup_fill (show (Table.fill (fun _ _ => true) ∅
      (["files", "notes"].map fun slug => (slug, urlEntry "seven"))).lookup slug = some entry from offered)
    · cases none
    · exact Or.inl (by simpa [or_and_right] using listed)

theorem urlEntry_inj {first second : String} : urlEntry first = urlEntry second ↔ first = second := by
  simp [urlEntry]

/-- A bundled local entry is given for one assigned directly from a center, one that a remote skill depends on for one
assigned from another center, and what is given of two equal centers depends on the order. -/
theorem mixed_overlaid : ¬ mixedDb.Wins 1 writerCache urlClient (mixedDb.DirectEntry 1 writerCache urlClient) ∧
    ¬ mixedDb.Wins 1 writerCache urlClient (mixedDb.AssignedEntry 1 writerCache urlClient) ∧
    ¬ mixedDb.OrderFree 1 writerCache urlClient := by
  have offers : mixedDb.Offers 1 writerCache urlClient 7 "files" (urlEntry "seven") := ⟨["files", "notes"], by decide, rfl⟩
  have offersSearch : mixedDb.Offers 1 writerCache urlClient 8 "search" (urlEntry "eight") :=
    ⟨["search", "notes"], by decide, rfl⟩
  refine ⟨fun wins => ?_, fun wins => ?_, fun free => ?_⟩
  · obtain ⟨entry, direct, given⟩ := wins .stored .stored "files" ⟨_, Or.inr ⟨7, by decide, offers⟩⟩
    have overlaid : (mixedDb.getMcpServers 1 writerCache urlClient .stored .stored).lookup "files" = some (urlEntry "local") :=
      rfl
    rw [overlaid, Option.some.injEq] at given
    subst given
    obtain ⟨server, member, -⟩ | ⟨scId, -, offered⟩ := direct
    · cases member
    · obtain ⟨-, same⟩ | ⟨-, same⟩ := mixed_offers offered
      · exact absurd (urlEntry_inj.mp same) (by decide)
      · exact absurd (urlEntry_inj.mp same) (by decide)
  · obtain ⟨entry, assigned, given⟩ := wins .stored .stored "search" ⟨_, Or.inr ⟨8, offersSearch⟩⟩
    have overlaid : (mixedDb.getMcpServers 1 writerCache urlClient .stored .stored).lookup "search" = some (urlEntry "seven") :=
      rfl
    rw [overlaid, Option.some.injEq] at given
    subst given
    obtain (⟨server, member, -⟩ | ⟨server, member, named, -⟩) | ⟨scId, offered⟩ := assigned
    · cases member
    · obtain rfl : server = ⟨"files", .string "local", []⟩ := List.mem_singleton.mp member
      exact absurd named (by decide)
    · obtain ⟨named, -⟩ | ⟨-, same⟩ := mixed_offers offered
      · exact absurd named (by decide)
      · exact absurd (urlEntry_inj.mp same) (by decide)
  · have seven : (mixedDb.getMcpServers 1 writerCache urlClient .stored (.lastly 7)).lookup "notes" = some (urlEntry "seven") :=
      rfl
    have eight : (mixedDb.getMcpServers 1 writerCache urlClient .stored (.lastly 8)).lookup "notes" = some (urlEntry "eight") :=
      rfl
    rw [free .stored (.lastly 7) .stored (.lastly 8), eight, Option.some.injEq] at seven
    exact absurd (urlEntry_inj.mp seven) (by decide)

end MacMgmt.Server.CatalogDb
