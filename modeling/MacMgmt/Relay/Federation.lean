import MacMgmt.Lib.Table
import Mathlib.Data.List.Sort
import Mathlib.Data.Multiset.Basic

/-!
# Federated metrics

`relay/src/metrics_federation.rs`, and `federated_metrics` and `merge_family` of `relay/src/api.rs`, from the samples that
`prometheus-parse` finds in the texts of the daemons to the lines that the `TextEncoder` of the crate `prometheus` writes.
Both crates are outside the repository: a text is given by its samples, and the encoder by what it writes for a metric
under the type of its family. Time stamps are not carried over.
-/

namespace MacMgmt.Relay
open Lib

variable {F : Type}

/-- What the code does with `f64` values; the casts go to and from `u64`. -/
structure Numbers (F : Type) where
  asU64 : F → Nat
  ofU64 : Nat → F
  posInf : F
  isPosInf : F → Bool
  isPosInf_iff : ∀ value, isPosInf value = true ↔ value = posInf

abbrev Labels := List (String × String)

inductive Value (F : Type) where
  | counter (value : F)
  | gauge (value : F)
  | untyped (value : F)
  | histogram (buckets : List (F × F))
  | summary (quantiles : List (F × F))

-- The parser keeps the labels of a sample in a hash map.
structure Sample (F : Type) where
  metric : String
  labels : Labels
  value : Value F
  distinct : (labels.map Prod.fst).Nodup := by decide

inductive MetricType where
  | counter
  | gauge
  | untyped
  | histogram
  | summary
deriving DecidableEq

inductive MetricValue (F : Type) where
  | counter (value : F)
  | gauge (value : F)
  | untyped (value : F)
  | histogram (buckets : List (F × Nat)) (sampleSum : Option F) (sampleCount : Nat)
  | summary (quantiles : List (F × F)) (sampleSum : Option F) (sampleCount : Option Nat)

structure Metric (F : Type) where
  labels : Labels
  value : MetricValue F

structure MetricFamily (F : Type) where
  name : String
  type : MetricType
  metrics : List (Metric F)

/-! ## Labels -/

/-- Federation labels win over a label of the same name. -/
def upsert (labels : Labels) (key value : String) : Labels :=
  match labels.findIdx? (fun label => label.1 = key) with
  | some slot => labels.modify slot fun label => (label.1, value)
  | none => labels ++ [(key, value)]

def buildLabels (federation : Labels) (sample : Sample F) : Labels :=
  federation.foldl (fun labels label => upsert labels label.1 label.2) sample.labels

def labelsKey (labels : Labels) : List Char :=
  (labels.insertionSort fun a b => a.1 ≤ b.1).flatMap fun label =>
    label.1.toList ++ '=' :: label.2.toList ++ [Char.ofNat 0x1f]

/-! ## Families -/

def pushMetric (families : Table String (MetricFamily F)) (name : String) (type : MetricType) (metric : Metric F) :
    Table String (MetricFamily F) :=
  let family := (families.lookup name).getD ⟨name, type, []⟩
  families.insert name { family with metrics := family.metrics ++ [metric] }

def pushCounter (families : Table String (MetricFamily F)) (name : String) (labels : Labels) (value : F) :
    Table String (MetricFamily F) := pushMetric families name .counter ⟨labels, .counter value⟩

def pushGauge (families : Table String (MetricFamily F)) (name : String) (labels : Labels) (value : F) :
    Table String (MetricFamily F) := pushMetric families name .gauge ⟨labels, .gauge value⟩

def pushUntyped (families : Table String (MetricFamily F)) (name : String) (labels : Labels) (value : F) :
    Table String (MetricFamily F) := pushMetric families name .untyped ⟨labels, .untyped value⟩

/-- A `BTreeMap` is walked in the order of its keys. -/
def byName : Traversal String where
  entries table := table.entries.insertionSort fun a b => a.1 ≤ b.1
  perm _ := List.perm_insertionSort _ _

def intoValues (families : Table String (MetricFamily F)) : List (MetricFamily F) := (byName.entries families).map Sigma.snd

/-! ## Histograms and summaries -/

/-- `HistogramAcc` with its buckets, or `SummaryAcc` with its quantiles. -/
structure Acc (F : Type) where
  labels : Labels
  points : List (F × F)
  sampleSum : Option F
  sampleCount : Option Nat

def Acc.new (labels : Labels) : Acc F := ⟨labels, [], none, none⟩

inductive SamplePart (F : Type) where
  | points (points : List (F × F))
  | sum (value : F)
  | count (value : F)

abbrev Accs (F : Type) := Table (String × List Char) (Acc F)

section Numbers
variable (numbers : Numbers F)

def Acc.add (acc : Acc F) : SamplePart F → Acc F
  | .points points => { acc with points := acc.points ++ points }
  | .sum value => { acc with sampleSum := some value }
  | .count value => { acc with sampleCount := some (numbers.asU64 value) }

def addPart (accs : Accs F) (base : String) (labels : Labels) (part : SamplePart F) : Accs F :=
  accs.insert (base, labelsKey labels) (((accs.lookup (base, labelsKey labels)).getD (Acc.new labels)).add numbers part)

/-- The bucket `+Inf` is left to the encoder. -/
def Acc.intoHistogram (acc : Acc F) : Metric F :=
  let counts := acc.points.map fun bucket => numbers.asU64 bucket.2
  let infinite := acc.points.filter fun bucket => numbers.isPosInf bucket.1
  let infCount := infinite.getLast?.map fun bucket => numbers.asU64 bucket.2
  let buckets := (acc.points.filter fun bucket => !numbers.isPosInf bucket.1).map fun bucket =>
    (bucket.1, numbers.asU64 bucket.2)
  ⟨acc.labels, .histogram buckets acc.sampleSum ((acc.sampleCount.or infCount).getD (counts.foldl max 0))⟩

def Acc.intoSummary (acc : Acc F) : Metric F := ⟨acc.labels, .summary acc.points acc.sampleSum acc.sampleCount⟩

/-! ## One daemon -/

structure Families (F : Type) where
  counters : Table String (MetricFamily F)
  gauges : Table String (MetricFamily F)
  untypeds : Table String (MetricFamily F)
  histograms : Accs F
  summaries : Accs F

def Families.empty : Families F := ⟨∅, ∅, ∅, ∅, ∅⟩

structure Bases where
  hist : List String
  summary : List String

def basesOf (samples : List (Sample F)) : Bases where
  hist := samples.filterMap fun sample =>
    match sample.value with
    | .histogram _ => some sample.metric
    | .counter _ | .gauge _ | .untyped _ | .summary _ => none
  summary := samples.filterMap fun sample =>
    match sample.value with
    | .summary _ => some sample.metric
    | .counter _ | .gauge _ | .untyped _ | .histogram _ => none

def stripSuffix (suffix text : String) : Option String := (text.toList.dropSuffix? suffix.toList).map String.ofList

def routeSuffix (bases : Bases) (suffix : String) (part : SamplePart F) (families : Families F) (metric : String)
    (labels : Labels) : Option (Families F) :=
  match stripSuffix suffix metric with
  | none => none
  | some base =>
      if base ∈ bases.hist then
        some { families with histograms := addPart numbers families.histograms base labels part }
      else if base ∈ bases.summary then
        some { families with summaries := addPart numbers families.summaries base labels part }
      else none

def routeSumOrCount (bases : Bases) (families : Families F) (metric : String) (labels : Labels) (value : F) :
    Option (Families F) :=
  (routeSuffix numbers bases "_sum" (.sum value) families metric labels).or
    (routeSuffix numbers bases "_count" (.count value) families metric labels)

def addSample (bases : Bases) (federation : Labels) (families : Families F) (sample : Sample F) : Families F :=
  let labels := buildLabels federation sample
  match sample.value with
  | .counter value => { families with counters := pushCounter families.counters sample.metric labels value }
  | .gauge value => { families with gauges := pushGauge families.gauges sample.metric labels value }
  | .untyped value =>
      (routeSumOrCount numbers bases families sample.metric labels value).getD
        { families with untypeds := pushUntyped families.untypeds sample.metric labels value }
  | .histogram buckets =>
      { families with histograms := addPart numbers families.histograms sample.metric labels (.points buckets) }
  | .summary quantiles =>
      { families with summaries := addPart numbers families.summaries sample.metric labels (.points quantiles) }

def familiesOf (order : Traversal (String × List Char)) (type : MetricType) (intoMetric : Acc F → Metric F) (accs : Accs F) :
    Table String (MetricFamily F) :=
  (order.entries accs).foldl (fun families entry => pushMetric families entry.1.1 type (intoMetric entry.2)) ∅

def parseAndRelabel (order : Traversal (String × List Char)) (federation : Labels) (samples : List (Sample F)) :
    List (MetricFamily F) :=
  let families := samples.foldl (addSample numbers (basesOf samples) federation) Families.empty
  intoValues families.counters ++ intoValues families.gauges ++ intoValues families.untypeds ++
    intoValues (familiesOf order .histogram (Acc.intoHistogram numbers) families.histograms) ++
    intoValues (familiesOf order .summary Acc.intoSummary families.summaries)

/-! ## All daemons -/

/-- A daemon and what its scrape gave; `none` is a failed scrape. -/
structure Target (F : Type) where
  instanceId : String
  hostname : String
  clusterId : String
  clusterName : String
  scraped : Option (List (Sample F))
  duration : F

namespace Target

def federation (target : Target F) : Labels :=
  [("instance_id", target.instanceId), ("hostname", target.hostname), ("cluster_id", target.clusterId),
    ("cluster_name", target.clusterName)]

def samples (target : Target F) : List (Sample F) := target.scraped.getD []

def ownLabels (target : Target F) : Labels :=
  [("instance_id", target.instanceId), ("hostname", target.hostname), ("cluster_id", target.clusterId)]

def up (target : Target F) : F := numbers.ofU64 (if target.scraped.isSome then 1 else 0)

end Target

def mergeFamily (families : Table String (MetricFamily F)) (incoming : MetricFamily F) : Table String (MetricFamily F) :=
  match families.lookup incoming.name with
  | some existing => families.insert incoming.name { existing with metrics := existing.metrics ++ incoming.metrics }
  | none => families.insert incoming.name ⟨incoming.name, incoming.type, incoming.metrics⟩

def addTarget (order : Traversal (String × List Char)) (families : Table String (MetricFamily F)) (target : Target F) :
    Table String (MetricFamily F) :=
  (parseAndRelabel numbers order target.federation target.samples).foldl mergeFamily
    (pushGauge (pushGauge families "mac_mgmt_relay_scrape_up" target.ownLabels (target.up numbers))
      "mac_mgmt_relay_scrape_duration_seconds" target.ownLabels target.duration)

def federatedMetrics (order : Traversal (String × List Char)) (own : List (MetricFamily F)) (targets : List (Target F)) :
    List (MetricFamily F) :=
  intoValues (own.foldl mergeFamily
    (pushGauge (targets.foldl (addTarget numbers order) ∅) "mac_mgmt_relay_scrape_targets" []
      (numbers.ofU64 targets.length)))

/-! ## Lines -/

inductive Mark (F : Type) where
  | none
  | le (bound : F)
  | quantile (quantile : F)
deriving DecidableEq

structure Line (F : Type) where
  name : String
  labels : Multiset (String × String)
  mark : Mark F
  value : F
deriving DecidableEq

def bucketLine (name : String) (labels : Labels) (bucket : F × F) : Line F :=
  ⟨name ++ "_bucket", labels, .le bucket.1, bucket.2⟩

def quantileLine (name : String) (labels : Labels) (quantile : F × F) : Line F :=
  ⟨name, labels, .quantile quantile.1, quantile.2⟩

/-- The lines of a text that the parser makes into one sample, under the given labels. -/
def sampleLines (labels : Labels) (sample : Sample F) : List (Line F) :=
  match sample.value with
  | .counter value | .gauge value | .untyped value => [⟨sample.metric, labels, .none, value⟩]
  | .histogram buckets => buckets.map (bucketLine sample.metric labels)
  | .summary quantiles => quantiles.map (quantileLine sample.metric labels)

/-- The lines that the encoder writes for a metric, where the metric is of the family's type. -/
structure TextEncoder where
  metricLines : String → MetricType → Metric F → List (Line F)
  counter : ∀ name labels value, metricLines name .counter ⟨labels, .counter value⟩ = [⟨name, labels, .none, value⟩]
  gauge : ∀ name labels value, metricLines name .gauge ⟨labels, .gauge value⟩ = [⟨name, labels, .none, value⟩]
  untyped : ∀ name labels value, metricLines name .untyped ⟨labels, .untyped value⟩ = [⟨name, labels, .none, value⟩]
  histogram : ∀ name labels buckets sum count, (∀ bucket ∈ buckets, numbers.isPosInf bucket.1 = false) →
    metricLines name .histogram ⟨labels, .histogram buckets (some sum) count⟩ =
      buckets.map (fun bucket => bucketLine name labels (bucket.1, numbers.ofU64 bucket.2)) ++
        [bucketLine name labels (numbers.posInf, numbers.ofU64 count), ⟨name ++ "_sum", labels, .none, sum⟩,
          ⟨name ++ "_count", labels, .none, numbers.ofU64 count⟩]
  summary : ∀ name labels quantiles sum count,
    metricLines name .summary ⟨labels, .summary quantiles (some sum) (some count)⟩ =
      quantiles.map (quantileLine name labels) ++
        [⟨name ++ "_sum", labels, .none, sum⟩, ⟨name ++ "_count", labels, .none, numbers.ofU64 count⟩]

variable {numbers}

def TextEncoder.familyLines (encoder : TextEncoder numbers) (family : MetricFamily F) : List (Line F) :=
  family.metrics.flatMap (encoder.metricLines family.name family.type)

def encodeFamilies (encoder : TextEncoder numbers) (families : List (MetricFamily F)) : List (Line F) :=
  families.flatMap encoder.familyLines

variable (numbers)

def targetLines (target : Target F) : List (Line F) :=
  [⟨"mac_mgmt_relay_scrape_up", target.ownLabels, .none, target.up numbers⟩,
    ⟨"mac_mgmt_relay_scrape_duration_seconds", target.ownLabels, .none, target.duration⟩]

/-- Every sample of every daemon, with the labels that it gets, and the relay's own lines. -/
def ExactlyOnce (relabel : Labels → Sample F → Labels) (encoder : TextEncoder numbers) (order : Traversal (String × List Char))
    (own : List (MetricFamily F)) (targets : List (Target F)) : Prop :=
  (encodeFamilies encoder (federatedMetrics numbers order own targets)).Perm
    (targets.flatMap (fun target => targetLines numbers target ++
        target.samples.flatMap fun sample => sampleLines (relabel target.federation sample) sample) ++
      ⟨"mac_mgmt_relay_scrape_targets", 0, .none, numbers.ofU64 targets.length⟩ :: encodeFamilies encoder own)

/-- The federation labels are added, and nothing else changes. -/
def addLabels (federation : Labels) (sample : Sample F) : Labels := sample.labels ++ federation

/-- The same, but the federation labels take the place of labels with their names. -/
def setLabels (federation : Labels) (sample : Sample F) : Labels :=
  sample.labels.filter (fun label => label.1 ∉ federation.map Prod.fst) ++ federation

/-! ## Texts that are federated exactly -/

/-- Where a sample belongs: to a family by itself, or to a series of a histogram or a summary. -/
inductive Place (F : Type) where
  | family (type : MetricType) (value : MetricValue F)
  | histogram (base : String) (part : SamplePart F)
  | summary (base : String) (part : SamplePart F)

def suffixPlace (bases : Bases) (suffix : String) (part : SamplePart F) (metric : String) : Option (Place F) :=
  match stripSuffix suffix metric with
  | none => none
  | some base =>
      if base ∈ bases.hist then some (.histogram base part) else if base ∈ bases.summary then some (.summary base part)
      else none

def placeOf (bases : Bases) (sample : Sample F) : Place F :=
  match sample.value with
  | .counter value => .family .counter (.counter value)
  | .gauge value => .family .gauge (.gauge value)
  | .untyped value =>
      ((suffixPlace bases "_sum" (.sum value) sample.metric).or
        (suffixPlace bases "_count" (.count value) sample.metric)).getD (.family .untyped (.untyped value))
  | .histogram buckets => .histogram sample.metric (.points buckets)
  | .summary quantiles => .summary sample.metric (.points quantiles)

def familyOf (bases : Bases) (sample : Sample F) : String × MetricType :=
  match placeOf bases sample with
  | .family type _ => (sample.metric, type)
  | .histogram base _ => (base, .histogram)
  | .summary base _ => (base, .summary)

def announced (own : List (MetricFamily F)) (targets : List (Target F)) : List (String × MetricType) :=
  targets.flatMap (fun target => [("mac_mgmt_relay_scrape_up", .gauge), ("mac_mgmt_relay_scrape_duration_seconds", .gauge)] ++
      target.samples.map (familyOf (basesOf target.samples))) ++
    ("mac_mgmt_relay_scrape_targets", .gauge) :: own.map fun family => (family.name, family.type)

structure SeriesPart (F : Type) where
  base : String
  labels : Labels
  part : SamplePart F

def histogramPart (bases : Bases) (federation : Labels) (sample : Sample F) : Option (SeriesPart F) :=
  match placeOf bases sample with
  | .histogram base part => some ⟨base, buildLabels federation sample, part⟩
  | .family .. | .summary .. => none

def summaryPart (bases : Bases) (federation : Labels) (sample : Sample F) : Option (SeriesPart F) :=
  match placeOf bases sample with
  | .summary base part => some ⟨base, buildLabels federation sample, part⟩
  | .family .. | .histogram .. => none

namespace Target

def histogramParts (target : Target F) : List (SeriesPart F) :=
  target.samples.filterMap (histogramPart (basesOf target.samples) target.federation)

def summaryParts (target : Target F) : List (SeriesPart F) :=
  target.samples.filterMap (summaryPart (basesOf target.samples) target.federation)

end Target

def SeriesPart.key (part : SeriesPart F) : String × List Char := (part.base, labelsKey part.labels)

def seriesOf (parts : List (SeriesPart F)) (key : String × List Char) : List (SeriesPart F) :=
  parts.filter fun part => part.key = key

def pointsOf (parts : List (SeriesPart F)) : List (F × F) :=
  parts.flatMap fun part =>
    match part.part with
    | .points points => points
    | .sum _ | .count _ => []

def sumsOf (parts : List (SeriesPart F)) : List F :=
  parts.filterMap fun part =>
    match part.part with
    | .sum value => some value
    | .points _ | .count _ => none

def countsOf (parts : List (SeriesPart F)) : List F :=
  parts.filterMap fun part =>
    match part.part with
    | .count value => some value
    | .points _ | .sum _ => none

def KeysApart (parts : List (SeriesPart F)) : Prop :=
  ∀ part ∈ parts, ∀ other ∈ parts, part.key = other.key → part.labels.Perm other.labels

/-- One sum, one count, which is the count of the one bucket `+Inf`, and whole numbers in all buckets. -/
def HistogramWhole (series : List (SeriesPart F)) : Prop :=
  ∃ sum count, sumsOf series = [sum] ∧ countsOf series = [count] ∧
    (pointsOf series).filter (fun bucket => numbers.isPosInf bucket.1) = [(numbers.posInf, count)] ∧
    ∀ bucket ∈ pointsOf series, numbers.ofU64 (numbers.asU64 bucket.2) = bucket.2

def SummaryWhole (series : List (SeriesPart F)) : Prop :=
  ∃ sum count, sumsOf series = [sum] ∧ countsOf series = [count] ∧ numbers.ofU64 (numbers.asU64 count) = count

structure Regular (target : Target F) : Prop where
  histogramKeys : KeysApart target.histogramParts
  summaryKeys : KeysApart target.summaryParts
  histograms : ∀ part ∈ target.histogramParts, HistogramWhole numbers (seriesOf target.histogramParts part.key)
  summaries : ∀ part ∈ target.summaryParts, SummaryWhole numbers (seriesOf target.summaryParts part.key)

def OneType (own : List (MetricFamily F)) (targets : List (Target F)) : Prop :=
  ∀ one ∈ announced own targets, ∀ other ∈ announced own targets, one.1 = other.1 → one.2 = other.2

end Numbers
end MacMgmt.Relay
