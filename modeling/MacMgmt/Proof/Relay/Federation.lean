import MacMgmt.Relay.Federation
import MacMgmt.Lib.Grouping

/-!
# What is federated

The federation regroups samples three times: into series and families of one daemon, and into families of all daemons. No
regrouping loses or changes a line where a series is whole, its key is its own and a name has one type.
-/

namespace MacMgmt.Proof.Relay
open Lib MacMgmt.Relay

variable {F : Type} (numbers : Numbers F)

/-! ## Labels -/

theorem upsert_cons_same (label : String × String) (labels : Labels) (value : String) :
    upsert (label :: labels) label.1 value = (label.1, value) :: labels := by
  simp [upsert, List.findIdx?_cons]

theorem upsert_cons_other {label : String × String} {key : String} (other : label.1 ≠ key) (labels : Labels) (value : String) :
    upsert (label :: labels) key value = label :: upsert labels key value := by
  unfold upsert
  rw [List.findIdx?_cons, if_neg (by simpa using other)]
  cases labels.findIdx? fun label => label.1 = key with
  | none => rfl
  | some slot => rfl

theorem upsert_perm {labels : Labels} (distinct : (labels.map Prod.fst).Nodup) (key value : String) :
    (upsert labels key value).Perm (labels.filter (fun label => label.1 ≠ key) ++ [(key, value)]) := by
  induction labels with
  | nil => exact .refl _
  | cons label labels ih =>
      obtain ⟨absent, distinct⟩ := List.nodup_cons.mp distinct
      by_cases same : label.1 = key
      · subst same
        have kept : labels.filter (fun other => other.1 ≠ label.1) = labels := by
          refine List.filter_eq_self.mpr fun other member => decide_eq_true fun same => ?_
          exact absent (List.mem_map.mpr ⟨other, member, same⟩)
        rw [upsert_cons_same, List.filter_cons_of_neg (by simp), kept]
        exact (List.perm_append_singleton _ _).symm
      · rw [upsert_cons_other same, List.filter_cons_of_pos (by simpa using same)]
        exact (ih distinct).cons label

theorem upsert_distinct {labels : Labels} (distinct : (labels.map Prod.fst).Nodup) (key value : String) :
    ((upsert labels key value).map Prod.fst).Nodup := by
  have names := ((upsert_perm distinct key value).map Prod.fst).nodup_iff
  rw [names, List.map_append]
  refine List.nodup_append.mpr ⟨distinct.sublist (List.filter_sublist.map Prod.fst), List.nodup_singleton key, ?_⟩
  intro name member other single same
  obtain ⟨label, kept, rfl⟩ := List.mem_map.mp member
  exact of_decide_eq_true (List.mem_filter.mp kept).2 (same.trans (List.mem_singleton.mp single))

theorem foldl_upsert_perm {labels federation : Labels} (distinct : (labels.map Prod.fst).Nodup)
    (names : (federation.map Prod.fst).Nodup) :
    (federation.foldl (fun labels label => upsert labels label.1 label.2) labels).Perm
      (labels.filter (fun label => label.1 ∉ federation.map Prod.fst) ++ federation) := by
  induction federation generalizing labels with
  | nil => simp
  | cons label federation ih =>
      obtain ⟨absent, names⟩ := List.nodup_cons.mp names
      have one := (upsert_perm distinct label.1 label.2).filter fun other => other.1 ∉ federation.map Prod.fst
      have here : [(label.1, label.2)].filter (fun other => other.1 ∉ federation.map Prod.fst) = [label] :=
        List.filter_cons_of_pos (decide_eq_true absent)
      rw [List.filter_append, here, List.filter_filter] at one
      have both : labels.filter (fun other => decide (other.1 ∉ federation.map Prod.fst) && decide (other.1 ≠ label.1)) =
          labels.filter fun other => other.1 ∉ (label :: federation).map Prod.fst := by
        refine List.filter_congr fun other _ => ?_
        simp only [List.map_cons, List.mem_cons, not_or, Bool.decide_and]
        exact Bool.and_comm _ _
      rw [both] at one
      refine (ih (upsert_distinct distinct label.1 label.2) names).trans ((one.append_right federation).trans ?_)
      rw [List.append_assoc, List.singleton_append]

theorem buildLabels_perm (target : Target F) (sample : Sample F) :
    (buildLabels target.federation sample).Perm (setLabels target.federation sample) :=
  foldl_upsert_perm sample.distinct (by simp [Target.federation])

/-! ## What one sample adds -/

def putSample (families : Families F) (metric : String) (labels : Labels) : Place F → Families F
  | .family .counter value => { families with counters := pushMetric families.counters metric .counter ⟨labels, value⟩ }
  | .family .gauge value => { families with gauges := pushMetric families.gauges metric .gauge ⟨labels, value⟩ }
  | .family .untyped value => { families with untypeds := pushMetric families.untypeds metric .untyped ⟨labels, value⟩ }
  | .family .histogram _ | .family .summary _ => families
  | .histogram base part => { families with histograms := addPart numbers families.histograms base labels part }
  | .summary base part => { families with summaries := addPart numbers families.summaries base labels part }

theorem routeSuffix_eq (bases : Bases) (suffix : String) (part : SamplePart F) (families : Families F) (metric : String)
    (labels : Labels) : routeSuffix numbers bases suffix part families metric labels =
      (suffixPlace bases suffix part metric).map (putSample numbers families metric labels) := by
  unfold routeSuffix suffixPlace
  cases stripSuffix suffix metric with
  | none => rfl
  | some base =>
      by_cases hist : base ∈ bases.hist
      · simp only [hist, if_true]
        rfl
      · by_cases summary : base ∈ bases.summary
        · simp only [hist, summary, if_true, if_false]
          rfl
        · simp only [hist, summary, if_false]
          rfl

theorem addSample_eq (bases : Bases) (federation : Labels) (families : Families F) (sample : Sample F) :
    addSample numbers bases federation families sample =
      putSample numbers families sample.metric (buildLabels federation sample) (placeOf bases sample) := by
  unfold addSample placeOf
  cases sample.value with
  | counter value => rfl
  | gauge value => rfl
  | untyped value =>
      simp only [routeSumOrCount, routeSuffix_eq]
      cases suffixPlace bases "_sum" (.sum value) sample.metric with
      | some place => rfl
      | none =>
          cases suffixPlace bases "_count" (.count value) sample.metric with
          | some place => rfl
          | none => rfl
  | histogram buckets => rfl
  | summary quantiles => rfl

def metricAt (bases : Bases) (federation : Labels) (type : MetricType) (sample : Sample F) : Option (String × Metric F) :=
  match placeOf bases sample with
  | .family own value => if own = type then some (sample.metric, ⟨buildLabels federation sample, value⟩) else none
  | .histogram .. | .summary .. => none

abbrev pushAll (type : MetricType) : Table String (MetricFamily F) → List (String × Metric F) → Table String (MetricFamily F) :=
  Table.accumulate Prod.fst (fun item => ⟨item.1, type, []⟩) fun family item =>
    { family with metrics := family.metrics ++ [item.2] }

abbrev addParts : Accs F → List (SeriesPart F) → Accs F :=
  Table.accumulate SeriesPart.key (fun part => Acc.new part.labels) fun acc part => acc.add numbers part.part

section Components
variable (bases : Bases) (federation : Labels) (families : Families F)

theorem addSample_counters (sample : Sample F) : (addSample numbers bases federation families sample).counters =
    pushAll .counter families.counters (metricAt bases federation .counter sample).toList := by
  rw [addSample_eq, metricAt]
  rcases placeOf bases sample with ⟨_ | _ | _ | _ | _, value⟩ | _ | _ <;> rfl

theorem addSample_gauges (sample : Sample F) : (addSample numbers bases federation families sample).gauges =
    pushAll .gauge families.gauges (metricAt bases federation .gauge sample).toList := by
  rw [addSample_eq, metricAt]
  rcases placeOf bases sample with ⟨_ | _ | _ | _ | _, value⟩ | _ | _ <;> rfl

theorem addSample_untypeds (sample : Sample F) : (addSample numbers bases federation families sample).untypeds =
    pushAll .untyped families.untypeds (metricAt bases federation .untyped sample).toList := by
  rw [addSample_eq, metricAt]
  rcases placeOf bases sample with ⟨_ | _ | _ | _ | _, value⟩ | _ | _ <;> rfl

theorem addSample_histograms (sample : Sample F) : (addSample numbers bases federation families sample).histograms =
    addParts numbers families.histograms (histogramPart bases federation sample).toList := by
  rw [addSample_eq, histogramPart]
  rcases placeOf bases sample with ⟨_ | _ | _ | _ | _, value⟩ | _ | _ <;> rfl

theorem addSample_summaries (sample : Sample F) : (addSample numbers bases federation families sample).summaries =
    addParts numbers families.summaries (summaryPart bases federation sample).toList := by
  rw [addSample_eq, summaryPart]
  rcases placeOf bases sample with ⟨_ | _ | _ | _ | _, value⟩ | _ | _ <;> rfl

end Components

theorem parseAndRelabel_eq (order : Traversal (String × List Char)) (federation : Labels) (samples : List (Sample F)) :
    parseAndRelabel numbers order federation samples =
      intoValues (pushAll .counter ∅ (samples.filterMap (metricAt (basesOf samples) federation .counter))) ++
      intoValues (pushAll .gauge ∅ (samples.filterMap (metricAt (basesOf samples) federation .gauge))) ++
      intoValues (pushAll .untyped ∅ (samples.filterMap (metricAt (basesOf samples) federation .untyped))) ++
      intoValues (familiesOf order .histogram (Acc.intoHistogram numbers)
        (addParts numbers ∅ (samples.filterMap (histogramPart (basesOf samples) federation)))) ++
      intoValues (familiesOf order .summary Acc.intoSummary
        (addParts numbers ∅ (samples.filterMap (summaryPart (basesOf samples) federation)))) := by
  unfold parseAndRelabel
  simp only []
  rw [Table.foldl_component Families.counters (addSample_counters numbers _ federation),
    Table.foldl_component Families.gauges (addSample_gauges numbers _ federation),
    Table.foldl_component Families.untypeds (addSample_untypeds numbers _ federation),
    Table.foldl_component Families.histograms (addSample_histograms numbers _ federation),
    Table.foldl_component Families.summaries (addSample_summaries numbers _ federation)]
  rfl

/-! ## The lines of families -/

section Lines
variable {numbers}
variable (encoder : TextEncoder numbers)

def itemLines (type : MetricType) (item : String × Metric F) : List (Line F) := encoder.metricLines item.1 type item.2

theorem encodeFamilies_append (families others : List (MetricFamily F)) :
    encodeFamilies encoder (families ++ others) = encodeFamilies encoder families ++ encodeFamilies encoder others :=
  List.flatMap_append

theorem lines_intoValues (families : Table String (MetricFamily F)) :
    encodeFamilies encoder (intoValues families) = (byName.entries families).flatMap fun entry => encoder.familyLines entry.2 := by
  rw [encodeFamilies, intoValues, List.flatMap_map]

theorem foldl_pushAll (family : MetricFamily F) (items : List (String × Metric F)) :
    items.foldl (fun family item => { family with metrics := family.metrics ++ [item.2] }) family =
      { family with metrics := family.metrics ++ items.map Prod.snd } := by
  induction items generalizing family with
  | nil => simp
  | cons item items ih => rw [List.foldl_cons, ih, List.map_cons, List.append_assoc, List.singleton_append]

theorem lines_pushAll (type : MetricType) (items : List (String × Metric F)) :
    (encodeFamilies encoder (intoValues (pushAll type ∅ items))).Perm
      (items.flatMap (itemLines encoder type)) := by
  rw [lines_intoValues]
  refine Table.flatMap_accumulate (fun _ family => encoder.familyLines family) ?_ (byName.perm _)
  intro item rest group
  have same : ∀ other ∈ item :: rest, other.1 = item.1 := by
    intro other member
    rw [← group] at member
    exact of_decide_eq_true (List.mem_filter.mp member).2
  rw [foldl_pushAll, TextEncoder.familyLines, List.nil_append, List.flatMap_map]
  refine List.Perm.of_eq (List.flatMap_congr fun other member => ?_)
  rw [itemLines, same other member]

/-! ## Merging -/

theorem mergeFamily_eq (families : Table String (MetricFamily F)) (incoming : MetricFamily F) :
    mergeFamily families incoming = families.insert incoming.name
      { (families.lookup incoming.name).getD ⟨incoming.name, incoming.type, []⟩ with
        metrics := ((families.lookup incoming.name).getD ⟨incoming.name, incoming.type, []⟩).metrics ++ incoming.metrics } := by
  unfold mergeFamily
  cases families.lookup incoming.name with
  | none => rfl
  | some existing => rfl

theorem foldl_mergeFamily (incoming : List (MetricFamily F)) :
    incoming.foldl mergeFamily ∅ =
      Table.accumulate MetricFamily.name (fun family => ⟨family.name, family.type, []⟩)
        (fun (existing : MetricFamily F) family => { existing with metrics := existing.metrics ++ family.metrics }) ∅ incoming := by
  unfold Table.accumulate
  congr 1
  funext families family
  exact mergeFamily_eq families family

theorem foldl_appendMetrics (family : MetricFamily F) (incoming : List (MetricFamily F)) :
    incoming.foldl (fun existing family => { existing with metrics := existing.metrics ++ family.metrics }) family =
      { family with metrics := family.metrics ++ incoming.flatMap MetricFamily.metrics } := by
  induction incoming generalizing family with
  | nil => simp
  | cons first incoming ih => rw [List.foldl_cons, ih, List.flatMap_cons, List.append_assoc]

theorem lines_mergeFamily (incoming : List (MetricFamily F))
    (oneType : ∀ family ∈ incoming, ∀ other ∈ incoming, family.name = other.name → family.type = other.type) :
    (encodeFamilies encoder (intoValues (incoming.foldl mergeFamily ∅))).Perm (encodeFamilies encoder incoming) := by
  rw [lines_intoValues, foldl_mergeFamily]
  refine Table.flatMap_accumulate (fun _ family => encoder.familyLines family) ?_ (byName.perm _)
  intro family rest group
  have within : ∀ other ∈ family :: rest, other ∈ incoming ∧ other.name = family.name := by
    intro other member
    rw [← group] at member
    obtain ⟨original, same⟩ := List.mem_filter.mp member
    exact ⟨original, of_decide_eq_true same⟩
  have first : family ∈ incoming := (within family List.mem_cons_self).1
  rw [foldl_appendMetrics, TextEncoder.familyLines, List.nil_append, List.flatMap_assoc]
  refine List.Perm.of_eq (List.flatMap_congr fun other member => ?_)
  obtain ⟨original, same⟩ := within other member
  rw [TextEncoder.familyLines, same, oneType other original family first same]

theorem pushMetric_eq_mergeFamily (families : Table String (MetricFamily F)) (name : String) (type : MetricType)
    (metric : Metric F) : pushMetric families name type metric = mergeFamily families ⟨name, type, [metric]⟩ := by
  rw [mergeFamily_eq]
  rfl

end Lines

/-- What the relay says about one daemon, and what the daemon says. -/
def incomingOf (order : Traversal (String × List Char)) (target : Target F) : List (MetricFamily F) :=
  ⟨"mac_mgmt_relay_scrape_up", .gauge, [⟨target.ownLabels, .gauge (target.up numbers)⟩]⟩ ::
    ⟨"mac_mgmt_relay_scrape_duration_seconds", .gauge, [⟨target.ownLabels, .gauge target.duration⟩]⟩ ::
    parseAndRelabel numbers order target.federation target.samples

theorem federatedMetrics_eq (order : Traversal (String × List Char)) (own : List (MetricFamily F)) (targets : List (Target F)) :
    federatedMetrics numbers order own targets =
      intoValues ((targets.flatMap (incomingOf numbers order) ++
        ⟨"mac_mgmt_relay_scrape_targets", .gauge, [⟨[], .gauge (numbers.ofU64 targets.length)⟩]⟩ :: own).foldl mergeFamily ∅) := by
  have one (families : Table String (MetricFamily F)) (target : Target F) :
      addTarget numbers order families target = (incomingOf numbers order target).foldl mergeFamily families := by
    unfold addTarget pushGauge
    rw [pushMetric_eq_mergeFamily, pushMetric_eq_mergeFamily]
    rfl
  have all (families : Table String (MetricFamily F)) : targets.foldl (addTarget numbers order) families =
      (targets.flatMap (incomingOf numbers order)).foldl mergeFamily families := by
    rw [List.foldl_flatMap]
    congr 1
    funext families target
    exact one families target
  unfold federatedMetrics pushGauge
  rw [all, pushMetric_eq_mergeFamily, List.foldl_append, List.foldl_cons]

/-! ## A series -/

def sumLine (name : String) (labels : Labels) (value : F) : Line F := ⟨name ++ "_sum", labels, .none, value⟩

def countLine (name : String) (labels : Labels) (value : F) : Line F := ⟨name ++ "_count", labels, .none, value⟩

/-- The lines of a part, where `point` makes the line of a bucket or of a quantile. -/
def partLines (point : String → Labels → F × F → Line F) (part : SeriesPart F) : List (Line F) :=
  match part.part with
  | .points points => points.map (point part.base part.labels)
  | .sum value => [sumLine part.base part.labels value]
  | .count value => [countLine part.base part.labels value]

theorem sumLine_congr (name : String) {labels other : Labels} (same : labels.Perm other) :
    sumLine (F := F) name labels = sumLine name other := by
  funext value
  rw [sumLine, Multiset.coe_eq_coe.mpr same]
  rfl

theorem countLine_congr (name : String) {labels other : Labels} (same : labels.Perm other) :
    countLine (F := F) name labels = countLine name other := by
  funext value
  rw [countLine, Multiset.coe_eq_coe.mpr same]
  rfl

theorem bucketLine_congr (name : String) {labels other : Labels} (same : labels.Perm other) :
    bucketLine (F := F) name labels = bucketLine name other := by
  funext bucket
  rw [bucketLine, Multiset.coe_eq_coe.mpr same]
  rfl

theorem quantileLine_congr (name : String) {labels other : Labels} (same : labels.Perm other) :
    quantileLine (F := F) name labels = quantileLine name other := by
  funext quantile
  rw [quantileLine, Multiset.coe_eq_coe.mpr same]
  rfl

theorem lines_of_series {point : String → Labels → F × F → Line F}
    (congr : ∀ name {labels other : Labels}, labels.Perm other → point name labels = point name other)
    {base : String} {labels : Labels} {series : List (SeriesPart F)}
    (same : ∀ part ∈ series, part.base = base ∧ part.labels.Perm labels) :
    (series.flatMap (partLines point)).Perm
      ((pointsOf series).map (point base labels) ++
        ((sumsOf series).map (sumLine base labels) ++ (countsOf series).map (countLine base labels))) := by
  induction series with
  | nil => exact .refl _
  | cons part series ih =>
      obtain ⟨ofBase, ofLabels⟩ := same part List.mem_cons_self
      have rest := ih fun other member => same other (List.mem_cons_of_mem _ member)
      have split : (part :: series).flatMap (partLines point) = partLines point part ++ series.flatMap (partLines point) :=
        List.flatMap_cons
      rw [split]
      obtain ⟨name, own, part⟩ := part
      subst ofBase
      cases part with
      | points list =>
          have here : pointsOf (⟨name, own, .points list⟩ :: series) = list ++ pointsOf series := List.flatMap_cons
          rw [here, List.map_append, List.append_assoc]
          simp only [partLines, congr _ ofLabels]
          exact rest.append_left _
      | sum value =>
          simp only [partLines, sumLine_congr _ ofLabels, List.singleton_append]
          exact (rest.cons _).trans List.perm_middle.symm
      | count value =>
          simp only [partLines, countLine_congr _ ofLabels, List.singleton_append]
          refine (rest.cons _).trans (List.perm_middle.symm.trans ?_)
          exact (List.perm_middle.symm).append_left _

theorem getLast?_cons_or (value : F) (list : List F) : (value :: list).getLast? = list.getLast?.or (some value) := by
  rw [List.getLast?_cons]
  cases list.getLast? with
  | none => rfl
  | some last => rfl

theorem foldl_addPart (acc : Acc F) (series : List (SeriesPart F)) :
    series.foldl (fun acc part => acc.add numbers part.part) acc =
      ⟨acc.labels, acc.points ++ pointsOf series, (sumsOf series).getLast?.or acc.sampleSum,
        ((countsOf series).getLast?.map numbers.asU64).or acc.sampleCount⟩ := by
  induction series generalizing acc with
  | nil => simp [pointsOf, sumsOf, countsOf]
  | cons part series ih =>
      obtain ⟨base, labels, part⟩ := part
      rw [List.foldl_cons, ih]
      cases part with
      | points points => simp [Acc.add, pointsOf, sumsOf, countsOf]
      | sum value =>
          have here : sumsOf (⟨base, labels, .sum value⟩ :: series) = value :: sumsOf series := rfl
          rw [here, getLast?_cons_or, Option.or_assoc]
          rfl
      | count value =>
          have here : countsOf (⟨base, labels, .count value⟩ :: series) = value :: countsOf series := rfl
          rw [here, getLast?_cons_or, Option.map_or, Option.or_assoc]
          rfl

def accOf (labels : Labels) (series : List (SeriesPart F)) : Acc F :=
  ⟨labels, pointsOf series, (sumsOf series).getLast?, (countsOf series).getLast?.map numbers.asU64⟩

section Series
variable {numbers}
variable (encoder : TextEncoder numbers)

theorem lines_intoHistogram (name : String) (labels : Labels) {series : List (SeriesPart F)}
    (whole : HistogramWhole numbers series) :
    (encoder.metricLines name .histogram (Acc.intoHistogram numbers (accOf numbers labels series))).Perm
      ((pointsOf series).map (bucketLine name labels) ++
        ((sumsOf series).map (sumLine name labels) ++ (countsOf series).map (countLine name labels))) := by
  obtain ⟨sum, count, sums, counts, infinite, unchanged⟩ := whole
  let finite := (pointsOf series).filter fun bucket => !numbers.isPosInf bucket.1
  have last : (numbers.posInf, count) ∈ pointsOf series := by
    have member : (numbers.posInf, count) ∈ (pointsOf series).filter fun bucket => numbers.isPosInf bucket.1 := by
      rw [infinite]
      exact List.mem_singleton_self _
    exact (List.mem_filter.mp member).1
  have buckets : (finite.map fun bucket => (bucket.1, numbers.asU64 bucket.2)).map
      (fun bucket => bucketLine name labels (bucket.1, numbers.ofU64 bucket.2)) = finite.map (bucketLine name labels) := by
    rw [List.map_map]
    refine List.map_congr_left fun bucket member => ?_
    rw [Function.comp_apply, unchanged bucket (List.mem_filter.mp member).1]
  have all : (finite ++ [(numbers.posInf, count)]).Perm (pointsOf series) := by
    rw [← infinite]
    exact List.perm_append_comm.trans (List.filter_append_perm _ _)
  simp only [Acc.intoHistogram, accOf, sums, counts, List.getLast?_singleton, Option.map_some, Option.some_or, Option.getD_some]
  rw [encoder.histogram]
  · rw [buckets, unchanged _ last]
    have lines := (all.map (bucketLine name labels)).append_right [sumLine name labels sum, countLine name labels count]
    rw [List.map_append, List.append_assoc] at lines
    exact lines
  · intro bucket member
    obtain ⟨original, within, rfl⟩ := List.mem_map.mp member
    exact Bool.not_eq_true' _ ▸ (List.mem_filter.mp within).2

theorem lines_intoSummary (name : String) (labels : Labels) {series : List (SeriesPart F)}
    (whole : SummaryWhole numbers series) :
    (encoder.metricLines name .summary (accOf numbers labels series).intoSummary).Perm
      ((pointsOf series).map (quantileLine name labels) ++
        ((sumsOf series).map (sumLine name labels) ++ (countsOf series).map (countLine name labels))) := by
  obtain ⟨sum, count, sums, counts, unchanged⟩ := whole
  simp only [Acc.intoSummary, accOf, sums, counts, List.getLast?_singleton, Option.map_some]
  rw [encoder.summary, unchanged]
  exact .refl _

theorem familiesOf_eq (order : Traversal (String × List Char)) (type : MetricType) (intoMetric : Acc F → Metric F)
    (accs : Accs F) : familiesOf order type intoMetric accs =
      pushAll type ∅ ((order.entries accs).map fun entry => (entry.1.1, intoMetric entry.2)) := by
  unfold familiesOf pushAll Table.accumulate
  rw [List.foldl_map]
  rfl

theorem lines_familiesOf (order : Traversal (String × List Char)) (type : MetricType) (intoMetric : Acc F → Metric F)
    {point : String → Labels → F × F → Line F}
    (congr : ∀ name {labels other : Labels}, labels.Perm other → point name labels = point name other)
    {parts : List (SeriesPart F)} (apart : KeysApart parts)
    (each : ∀ part ∈ parts, ∀ name labels,
      (encoder.metricLines name type (intoMetric (accOf numbers labels (seriesOf parts part.key)))).Perm
        ((pointsOf (seriesOf parts part.key)).map (point name labels) ++
          ((sumsOf (seriesOf parts part.key)).map (sumLine name labels) ++
            (countsOf (seriesOf parts part.key)).map (countLine name labels)))) :
    (encodeFamilies encoder (intoValues (familiesOf order type intoMetric (addParts numbers ∅ parts)))).Perm
      (parts.flatMap (partLines point)) := by
  rw [familiesOf_eq]
  refine (lines_pushAll encoder type _).trans ?_
  rw [List.flatMap_map]
  refine Table.flatMap_accumulate (fun key acc => encoder.metricLines key.1 type (intoMetric acc)) ?_ (order.perm _)
  intro part rest group
  have series : seriesOf parts part.key = part :: rest := group
  have member : part ∈ parts := by
    have first : part ∈ seriesOf parts part.key := series ▸ List.mem_cons_self
    exact (List.mem_filter.mp first).1
  have same : ∀ other ∈ seriesOf parts part.key, other.base = part.base ∧ other.labels.Perm part.labels := by
    intro other within
    obtain ⟨original, key⟩ := List.mem_filter.mp within
    have key : other.key = part.key := of_decide_eq_true key
    exact ⟨congrArg Prod.fst key, apart other original part member key⟩
  have acc : (part :: rest).foldl (fun acc part => acc.add numbers part.part) (Acc.new part.labels) =
      accOf numbers part.labels (seriesOf parts part.key) := by
    rw [foldl_addPart, series]
    simp [Acc.new, accOf]
  rw [acc]
  have lines := lines_of_series congr same
  rw [series] at lines ⊢
  exact (series ▸ each part member part.base part.labels).trans lines.symm

end Series

/-! ## One daemon -/

theorem stripSuffix_eq_some {suffix text base : String} (stripped : stripSuffix suffix text = some base) :
    base ++ suffix = text := by
  obtain ⟨start, dropped, rfl⟩ := Option.map_eq_some_iff.mp stripped
  obtain ⟨ending, whole, same⟩ := List.dropSuffix?_eq_some_iff.mp dropped
  have same : ending = suffix.toList := eq_of_beq same
  rw [← String.toList_inj, String.toList_append, String.toList_ofList, whole, same]

theorem suffixPlace_eq_some {bases : Bases} {suffix metric : String} {part : SamplePart F} {place : Place F}
    (placed : suffixPlace bases suffix part metric = some place) :
    ∃ base, base ++ suffix = metric ∧ (place = .histogram base part ∨ place = .summary base part) := by
  unfold suffixPlace at placed
  cases stripped : stripSuffix suffix metric with
  | none =>
      rw [stripped] at placed
      cases placed
  | some base =>
      refine ⟨base, stripSuffix_eq_some stripped, ?_⟩
      rw [stripped] at placed
      simp only [] at placed
      split at placed
      · exact .inl (Option.some.inj placed).symm
      · split at placed
        · exact .inr (Option.some.inj placed).symm
        · cases placed

theorem placeOf_untyped (bases : Bases) {sample : Sample F} {value : F} (untyped : sample.value = .untyped value) :
    (∃ base suffix part, base ++ suffix = sample.metric ∧
        (suffix = "_sum" ∧ part = .sum value ∨ suffix = "_count" ∧ part = .count value) ∧
        (placeOf bases sample = .histogram base part ∨ placeOf bases sample = .summary base part)) ∨
      placeOf bases sample = .family .untyped (.untyped value) := by
  unfold placeOf
  rw [untyped]
  simp only []
  cases sum : suffixPlace bases "_sum" (.sum value) sample.metric with
  | some place =>
      obtain ⟨base, whole, place⟩ := suffixPlace_eq_some sum
      exact .inl ⟨base, _, _, whole, .inl ⟨rfl, rfl⟩, place⟩
  | none =>
      cases count : suffixPlace bases "_count" (.count value) sample.metric with
      | some place =>
          obtain ⟨base, whole, place⟩ := suffixPlace_eq_some count
          exact .inl ⟨base, _, _, whole, .inr ⟨rfl, rfl⟩, place⟩
      | none => exact .inr rfl

section Target
variable {numbers}
variable (encoder : TextEncoder numbers) (bases : Bases) (federation : Labels)

theorem sampleLines_split (sample : Sample F) :
    (metricAt bases federation .counter sample).toList.flatMap (itemLines encoder .counter) ++
      ((metricAt bases federation .gauge sample).toList.flatMap (itemLines encoder .gauge) ++
      ((metricAt bases federation .untyped sample).toList.flatMap (itemLines encoder .untyped) ++
      ((histogramPart bases federation sample).toList.flatMap (partLines bucketLine) ++
      (summaryPart bases federation sample).toList.flatMap (partLines quantileLine)))) =
      sampleLines (buildLabels federation sample) sample := by
  unfold metricAt histogramPart summaryPart sampleLines
  cases kind : sample.value with
  | counter value =>
      simp [placeOf, kind, itemLines, encoder.counter]
  | gauge value =>
      simp [placeOf, kind, itemLines, encoder.gauge]
  | untyped value =>
      obtain ⟨base, suffix, part, whole, kinds, place⟩ | place := placeOf_untyped bases kind
      · obtain ⟨rfl, rfl⟩ | ⟨rfl, rfl⟩ := kinds
        · obtain place | place := place <;> simp [place, partLines, sumLine, whole]
        · obtain place | place := place <;> simp [place, partLines, countLine, whole]
      · simp [place, itemLines, encoder.untyped]
  | histogram buckets =>
      simp [placeOf, kind, partLines]
  | summary quantiles =>
      simp [placeOf, kind, partLines]

theorem sampleLines_congr (sample : Sample F) {labels other : Labels} (same : labels.Perm other) :
    sampleLines labels sample = sampleLines other sample := by
  unfold sampleLines
  rw [Multiset.coe_eq_coe.mpr same, bucketLine_congr _ same, quantileLine_congr _ same]

theorem flatMap_filterMap {A X : Type} (pick : A → Option X) (lines : X → List (Line F)) (list : List A) :
    (list.filterMap pick).flatMap lines = list.flatMap fun item => (pick item).toList.flatMap lines := by
  rw [List.filterMap_eq_flatMap_toList, List.flatMap_assoc]

theorem perm_flatMap_append {A : Type} {list : List A} {others : List (Line F)} {other : A → List (Line F)}
    (one : A → List (Line F)) (same : others.Perm (list.flatMap other)) :
    (list.flatMap one ++ others).Perm (list.flatMap fun item => one item ++ other item) :=
  (same.append_left _).trans (List.flatMap_append_perm _ _ _)

theorem lines_split (samples : List (Sample F)) :
    ((samples.filterMap (metricAt bases federation .counter)).flatMap (itemLines encoder .counter) ++
      ((samples.filterMap (metricAt bases federation .gauge)).flatMap (itemLines encoder .gauge) ++
      ((samples.filterMap (metricAt bases federation .untyped)).flatMap (itemLines encoder .untyped) ++
      ((samples.filterMap (histogramPart bases federation)).flatMap (partLines bucketLine) ++
      (samples.filterMap (summaryPart bases federation)).flatMap (partLines quantileLine))))).Perm
      (samples.flatMap fun sample => sampleLines (buildLabels federation sample) sample) := by
  rw [flatMap_filterMap, flatMap_filterMap, flatMap_filterMap, flatMap_filterMap, flatMap_filterMap]
  refine List.Perm.trans ?_ (List.Perm.of_eq (List.flatMap_congr fun sample _ => sampleLines_split encoder bases federation sample))
  exact perm_flatMap_append _ (perm_flatMap_append _ (perm_flatMap_append _ (List.flatMap_append_perm _ _ _)))

end Target

theorem lines_parseAndRelabel {numbers : Numbers F} (encoder : TextEncoder numbers) (order : Traversal (String × List Char))
    {target : Target F} (regular : Regular numbers target) :
    (encodeFamilies encoder (parseAndRelabel numbers order target.federation target.samples)).Perm
      (target.samples.flatMap fun sample => sampleLines (buildLabels target.federation sample) sample) := by
  refine List.Perm.trans ?_ (lines_split encoder (basesOf target.samples) target.federation target.samples)
  have histograms := lines_familiesOf encoder order .histogram (Acc.intoHistogram numbers) bucketLine_congr
    regular.histogramKeys fun part member name labels => lines_intoHistogram encoder name labels (regular.histograms part member)
  have summaries := lines_familiesOf encoder order .summary Acc.intoSummary quantileLine_congr
    regular.summaryKeys fun part member name labels => lines_intoSummary encoder name labels (regular.summaries part member)
  rw [parseAndRelabel_eq]
  simp only [encodeFamilies_append, List.append_assoc]
  exact (lines_pushAll encoder .counter _).append ((lines_pushAll encoder .gauge _).append
    ((lines_pushAll encoder .untyped _).append (histograms.append summaries)))

/-! ## Names and types -/

theorem mem_intoValues {families : Table String (MetricFamily F)} {family : MetricFamily F} (member : family ∈ intoValues families) :
    ∃ entry ∈ families.entries, entry.2 = family := by
  obtain ⟨entry, within, same⟩ := List.mem_map.mp member
  exact ⟨entry, (byName.perm families).mem_iff.mp within, same⟩

theorem mem_pushAll {type : MetricType} {items : List (String × Metric F)} {family : MetricFamily F}
    (member : family ∈ intoValues (pushAll type ∅ items)) : family.type = type ∧ ∃ item ∈ items, item.1 = family.name := by
  obtain ⟨entry, within, rfl⟩ := mem_intoValues member
  obtain ⟨item, rest, _, _, original, value⟩ := Table.entry_accumulate within
  rw [foldl_pushAll] at value
  rw [value]
  exact ⟨rfl, item, original, rfl⟩

theorem mem_familiesOf {order : Traversal (String × List Char)} {type : MetricType} {intoMetric : Acc F → Metric F}
    {parts : List (SeriesPart F)} {family : MetricFamily F}
    (member : family ∈ intoValues (familiesOf order type intoMetric (addParts numbers ∅ parts))) :
    family.type = type ∧ ∃ part ∈ parts, part.base = family.name := by
  rw [familiesOf_eq] at member
  obtain ⟨ofType, item, within, named⟩ := mem_pushAll member
  obtain ⟨entry, stored, rfl⟩ := List.mem_map.mp within
  obtain ⟨part, _, _, key, original, _⟩ := Table.entry_accumulate ((order.perm _).mem_iff.mp stored)
  exact ⟨ofType, part, original, (congrArg Prod.fst key).trans named⟩

section Announced
variable {bases : Bases} {federation : Labels}

theorem familyOf_of_metricAt {type : MetricType} {samples : List (Sample F)} {item : String × Metric F}
    (member : item ∈ samples.filterMap (metricAt bases federation type)) :
    ∃ sample ∈ samples, familyOf bases sample = (item.1, type) := by
  obtain ⟨sample, original, picked⟩ := List.mem_filterMap.mp member
  refine ⟨sample, original, ?_⟩
  cases place : placeOf bases sample with
  | family own value =>
      rw [metricAt, place] at picked
      obtain ⟨same, picked⟩ := Option.ite_none_right_eq_some.mp picked
      rw [familyOf, place, ← same, ← Option.some.inj picked]
  | histogram base part =>
      rw [metricAt, place] at picked
      cases picked
  | summary base part =>
      rw [metricAt, place] at picked
      cases picked

theorem familyOf_of_pushAll {type : MetricType} {samples : List (Sample F)} {family : MetricFamily F}
    (member : family ∈ intoValues (pushAll type ∅ (samples.filterMap (metricAt bases federation type)))) :
    ∃ sample ∈ samples, familyOf bases sample = (family.name, family.type) := by
  obtain ⟨ofType, item, within, named⟩ := mem_pushAll member
  rw [ofType, ← named]
  exact familyOf_of_metricAt within

theorem familyOf_of_histogramPart {samples : List (Sample F)} {part : SeriesPart F}
    (member : part ∈ samples.filterMap (histogramPart bases federation)) :
    ∃ sample ∈ samples, familyOf bases sample = (part.base, .histogram) := by
  obtain ⟨sample, original, picked⟩ := List.mem_filterMap.mp member
  refine ⟨sample, original, ?_⟩
  cases place : placeOf bases sample with
  | family type value =>
      rw [histogramPart, place] at picked
      cases picked
  | histogram base part =>
      rw [histogramPart, place] at picked
      rw [familyOf, place, ← Option.some.inj picked]
  | summary base part =>
      rw [histogramPart, place] at picked
      cases picked

theorem familyOf_of_summaryPart {samples : List (Sample F)} {part : SeriesPart F}
    (member : part ∈ samples.filterMap (summaryPart bases federation)) :
    ∃ sample ∈ samples, familyOf bases sample = (part.base, .summary) := by
  obtain ⟨sample, original, picked⟩ := List.mem_filterMap.mp member
  refine ⟨sample, original, ?_⟩
  cases place : placeOf bases sample with
  | family type value =>
      rw [summaryPart, place] at picked
      cases picked
  | histogram base part =>
      rw [summaryPart, place] at picked
      cases picked
  | summary base part =>
      rw [summaryPart, place] at picked
      rw [familyOf, place, ← Option.some.inj picked]

end Announced

theorem familyOf_of_mem {order : Traversal (String × List Char)} {federation : Labels} {samples : List (Sample F)}
    {family : MetricFamily F} (member : family ∈ parseAndRelabel numbers order federation samples) :
    ∃ sample ∈ samples, familyOf (basesOf samples) sample = (family.name, family.type) := by
  rw [parseAndRelabel_eq] at member
  simp only [List.mem_append] at member
  rcases member with (((counter | gauge) | untyped) | histogram) | summary
  · exact familyOf_of_pushAll counter
  · exact familyOf_of_pushAll gauge
  · exact familyOf_of_pushAll untyped
  · obtain ⟨type, part, within, named⟩ := mem_familiesOf numbers histogram
    rw [type, ← named]
    exact familyOf_of_histogramPart within
  · obtain ⟨type, part, within, named⟩ := mem_familiesOf numbers summary
    rw [type, ← named]
    exact familyOf_of_summaryPart within

def incoming (order : Traversal (String × List Char)) (own : List (MetricFamily F)) (targets : List (Target F)) :
    List (MetricFamily F) :=
  targets.flatMap (incomingOf numbers order) ++
    ⟨"mac_mgmt_relay_scrape_targets", .gauge, [⟨[], .gauge (numbers.ofU64 targets.length)⟩]⟩ :: own

theorem announced_of_mem {order : Traversal (String × List Char)} {own : List (MetricFamily F)} {targets : List (Target F)}
    {family : MetricFamily F} (member : family ∈ incoming numbers order own targets) :
    (family.name, family.type) ∈ announced own targets := by
  unfold announced
  rcases List.mem_append.mp member with daemon | relay
  · refine List.mem_append_left _ ?_
    obtain ⟨target, scraped, within⟩ := List.mem_flatMap.mp daemon
    refine List.mem_flatMap.mpr ⟨target, scraped, ?_⟩
    rcases List.mem_cons.mp within with rfl | within
    · exact List.mem_cons_self
    · rcases List.mem_cons.mp within with rfl | within
      · exact List.mem_cons_of_mem _ List.mem_cons_self
      · obtain ⟨sample, original, same⟩ := familyOf_of_mem numbers within
        exact List.mem_append_right _ (List.mem_map.mpr ⟨sample, original, same⟩)
  · refine List.mem_append_right _ ?_
    rcases List.mem_cons.mp relay with rfl | within
    · exact List.mem_cons_self
    · exact List.mem_cons_of_mem _ (List.mem_map.mpr ⟨family, within, rfl⟩)

/-! ## The federation -/

def wholeNumbers : Numbers (Option Nat) where
  asU64 value := min (value.getD (2 ^ 64)) (2 ^ 64 - 1)
  ofU64 := some
  posInf := none
  isPosInf := Option.isNone
  isPosInf_iff _ := Option.isNone_iff_eq_none

/-- A metric of another type than its family's has only the defaults of the fields that are read. -/
def textEncoder : TextEncoder wholeNumbers where
  metricLines name type metric :=
    match type with
    | .counter =>
        match metric.value with
        | .counter value => [⟨name, metric.labels, .none, value⟩]
        | _ => [⟨name, metric.labels, .none, some 0⟩]
    | .gauge =>
        match metric.value with
        | .gauge value => [⟨name, metric.labels, .none, value⟩]
        | _ => [⟨name, metric.labels, .none, some 0⟩]
    | .untyped =>
        match metric.value with
        | .untyped value => [⟨name, metric.labels, .none, value⟩]
        | _ => [⟨name, metric.labels, .none, some 0⟩]
    | .histogram =>
        let (buckets, sum, count) :=
          match metric.value with
          | .histogram buckets sum count => (buckets, sum.getD (some 0), count)
          | _ => ([], some 0, 0)
        let infinite := if buckets.any fun bucket => bucket.1.isNone then [] else [bucketLine name metric.labels (none, some count)]
        buckets.map (fun bucket => bucketLine name metric.labels (bucket.1, some bucket.2)) ++ infinite ++
          [sumLine name metric.labels sum, countLine name metric.labels (some count)]
    | .summary =>
        let (quantiles, sum, count) :=
          match metric.value with
          | .summary quantiles sum count => (quantiles, sum.getD (some 0), count.getD 0)
          | _ => ([], some 0, 0)
        quantiles.map (quantileLine name metric.labels) ++
          [sumLine name metric.labels sum, countLine name metric.labels (some count)]
  counter _ _ _ := rfl
  gauge _ _ _ := rfl
  untyped _ _ _ := rfl
  histogram name labels buckets sum count finite := by
    have none : (buckets.any fun bucket => bucket.1.isNone) = false := List.any_eq_false.mpr fun bucket member =>
      Bool.not_eq_true _ ▸ finite bucket member
    simp only [none, List.append_assoc]
    rfl
  summary _ _ _ _ _ := rfl

def daemon (instanceId : String) (samples : List (Sample (Option Nat))) : Target (Option Nat) :=
  ⟨instanceId, "host", "cluster", "name", some samples, some 1⟩

def daemonSamples : List (Sample (Option Nat)) :=
  [.mk "boots" [("disk", "a")] (.counter (some 7)),
    .mk "latency" [] (.histogram [(some 1, some 2), (none, some 3)]), .mk "latency_sum" [] (.untyped (some 5)),
    .mk "latency_count" [] (.untyped (some 3)), .mk "size" [] (.summary [(some 1, some 4)]), .mk "size_sum" [] (.untyped (some 9)),
    .mk "size_count" [] (.untyped (some 2))]

def sizes (labels : Labels) (count : Nat) (distinct : (labels.map Prod.fst).Nodup) : List (Sample (Option Nat)) :=
  [.mk "size" labels (.histogram [(none, some count)]) distinct, .mk "size_sum" labels (.untyped (some 1)) distinct,
    .mk "size_count" labels (.untyped (some count)) distinct]

end MacMgmt.Proof.Relay
