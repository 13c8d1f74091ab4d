import LiveStream.Monitoring.Reducer

/-! What a reduction depends on: the latest observations of the domain, in no order. -/

namespace LiveStream.Monitoring

open LiveStream.Support

variable {policy : DomainPolicy} {nowTs maxFutureSec : Int} {first second : List ObservationEnvelope}

/-- An observation id names one content, as `stable_id` makes it and the table of observations
keeps it. -/
def IdsNameContent (items : List ObservationEnvelope) : Prop :=
  ∀ left ∈ items, ∀ right ∈ items, left.observationId = right.observationId →
    left.toObservationContent = right.toObservationContent

/-- The latest observation of its source in a domain. -/
def LatestOfSource (domain : Domain) (items : List ObservationEnvelope) (item : ObservationEnvelope) :
    Prop :=
  IsLatest sourceOf ObservationEnvelope.recency (ofDomain domain items) item

/-- The lists differ only by observations that are not the latest of their source. -/
structure SameLatest (domain : Domain) (first second : List ObservationEnvelope) : Prop where
  left : ∀ item ∈ first, item ∉ second → ¬ LatestOfSource domain first item
  right : ∀ item ∈ second, item ∉ first → ¬ LatestOfSource domain second item

theorem sameLatest_of_mem_iff {domain : Domain} (same : ∀ item, item ∈ first ↔ item ∈ second) :
    SameLatest domain first second := by
  constructor
  · intro item member absent
    exact absurd ((same item).mp member) absent
  · intro item member absent
    exact absurd ((same item).mpr member) absent

theorem mem_ofDomain {domain : Domain} {items : List ObservationEnvelope} {item : ObservationEnvelope} :
    item ∈ ofDomain domain items ↔ item ∈ items ∧ item.domain = domain := by
  simp [ofDomain]

/-- With ids that name contents, source and recency identify an observation. -/
theorem eq_of_recency {items : List ObservationEnvelope} (named : IdsNameContent items)
    {left right : ObservationEnvelope} (leftMember : left ∈ items) (rightMember : right ∈ items)
    (same : left.recency = right.recency) : left = right := by
  have parts : unixTs left.observedAt = unixTs right.observedAt ∧
      left.receivedTs = right.receivedTs ∧ left.observationId = right.observationId := by
    simpa [ObservationEnvelope.recency] using same
  obtain ⟨_, received, ident⟩ := parts
  have content := named left leftMember right rightMember ident
  obtain ⟨leftContent, leftId, leftReceived, _⟩ := left
  obtain ⟨rightContent, rightId, rightReceived, _⟩ := right
  dsimp only at received ident content
  subst received ident content
  rfl

/-- Lists with the same latest observations select the same observations, in some order. -/
theorem latestBySource_perm (named : IdsNameContent first) (namedToo : IdsNameContent second)
    (agree : SameLatest policy.domain first second) :
    (latestBySource (ofDomain policy.domain first)).Perm
      (latestBySource (ofDomain policy.domain second)) := by
  apply latestBy_perm
  · intro left leftMember right rightMember _ same
    exact eq_of_recency named (mem_ofDomain.mp leftMember).1 (mem_ofDomain.mp rightMember).1 same
  · intro left leftMember right rightMember _ same
    exact eq_of_recency namedToo (mem_ofDomain.mp leftMember).1 (mem_ofDomain.mp rightMember).1 same
  · intro item latest
    have owned := mem_ofDomain.mp latest.1
    by_contra absent
    have missing : item ∉ second := fun member => absent (mem_ofDomain.mpr ⟨member, owned.2⟩)
    exact agree.left item owned.1 missing latest
  · intro item latest
    have owned := mem_ofDomain.mp latest.1
    by_contra absent
    have missing : item ∉ first := fun member => absent (mem_ofDomain.mpr ⟨member, owned.2⟩)
    exact agree.right item owned.1 missing latest

/-- Each source has one latest observation. -/
theorem latestBySource_unique (items : List ObservationEnvelope) :
    ((latestBySource items).map sourceOf).Nodup :=
  (holdsLatest_latestBy sourceOf ObservationEnvelope.recency items).unique

theorem mem_latestBySource {items : List ObservationEnvelope} {item : ObservationEnvelope}
    (member : item ∈ latestBySource items) :
    IsLatest sourceOf ObservationEnvelope.recency items item :=
  (holdsLatest_latestBy sourceOf ObservationEnvelope.recency items).greatest item member

section Sources

variable {item : ObservationEnvelope}

theorem item_of_eligible? {entry : Eligible}
    (found : eligible? policy nowTs maxFutureSec item = some entry) : entry.item = item := by
  unfold eligible? at found
  split at found
  · cases found
    rfl
  · cases found
  · cases found

theorem source_of_ignored? {entry : Ignored}
    (found : ignored? policy nowTs maxFutureSec item = some entry) : entry.source = sourceOf item := by
  unfold ignored? at found
  split at found
  · cases found
    rfl
  · cases found
    rfl
  · cases found

theorem source_of_diagnostic? {entry : Diagnostic}
    (found : diagnostic? policy nowTs maxFutureSec item = some entry) :
    entry.source = sourceOf item := by
  unfold diagnostic? at found
  split at found
  · cases found
    rfl
  · cases found
  · cases found

end Sources

section Order

variable {left right : List Eligible}

theorem topPriority_congr (perm : left.Perm right) : topPriority left = topPriority right := by
  unfold topPriority
  rw [max?_congr fun priority => (perm.map Eligible.priority).mem_iff]

theorem select_perm (perm : left.Perm right) : (select left).Perm (select right) := by
  unfold select
  rw [topPriority_congr perm]
  exact perm.filter _

theorem stateOf_congr {statuses others : List ObservationState} (perm : statuses.Perm others) :
    stateOf statuses = stateOf others := by
  simp only [stateOf, perm.mem_iff]

/-- The current of the selected evidence does not depend on the order of the evidence. -/
theorem selectedCurrent_congr {priority : Nat} {diagnostics : List Diagnostic}
    {ignored others : List Ignored} (perm : left.Perm right) (same : sortBy Ignored.source ignored =
      sortBy Ignored.source others) (apart : (left.map Eligible.order).Nodup) :
    selectedCurrent policy nowTs priority left diagnostics ignored =
      selectedCurrent policy nowTs priority right diagnostics others := by
  have states := stateOf_congr (perm.map fun entry => entry.item.status)
  have newest := max?_congr fun ts => (perm.map fun entry => unixTs entry.item.observedAt).mem_iff (a := ts)
  have soonest := min?_congr fun ts =>
    (perm.map fun entry => unixTs entry.item.observedAt + entry.freshnessLimit).mem_iff (a := ts)
  unfold selectedCurrent
  rw [states, newest, soonest, sortBy_eq_of_perm perm apart, same]

end Order

/-- What follows the choice of the latest observations does not depend on their order. -/
theorem reduceLatest_congr (perm : first.Perm second) (unique : (first.map sourceOf).Nodup) :
    reduceLatest policy nowTs maxFutureSec first = reduceLatest policy nowTs maxFutureSec second := by
  have eligible := perm.filterMap (eligible? policy nowTs maxFutureSec)
  have ignored : sortBy Ignored.source (first.filterMap (ignored? policy nowTs maxFutureSec)) =
      sortBy Ignored.source (second.filterMap (ignored? policy nowTs maxFutureSec)) := by
    apply sortBy_eq_of_perm (perm.filterMap _)
    exact nodup_filterMap_key id unique fun item entry => source_of_ignored?
  have diagnostics :
      sortBy Diagnostic.order (first.filterMap (diagnostic? policy nowTs maxFutureSec)) =
        sortBy Diagnostic.order (second.filterMap (diagnostic? policy nowTs maxFutureSec)) := by
    apply sortBy_eq_of_perm (perm.filterMap _)
    apply nodup_filterMap_key (fun order => (ofLex order).1) unique
    intro item entry found
    exact source_of_diagnostic? found
  have apart : ((first.filterMap (eligible? policy nowTs maxFutureSec)).map Eligible.order).Nodup := by
    apply nodup_filterMap_key (fun order => (ofLex order).1) unique
    intro item entry found
    exact congrArg sourceOf (item_of_eligible? found)
  have selected : ((select (first.filterMap (eligible? policy nowTs maxFutureSec))).map
      Eligible.order).Nodup := apart.sublist (List.filter_sublist.map _)
  unfold reduceLatest
  dsimp only
  rw [diagnostics, topPriority_congr eligible,
    selectedCurrent_congr (select_perm eligible) ignored selected]
  cases empty : (second.filterMap (eligible? policy nowTs maxFutureSec)).isEmpty with
  | true =>
    have none : (first.filterMap (eligible? policy nowTs maxFutureSec)).isEmpty = true := by
      rw [List.isEmpty_iff] at empty ⊢
      exact (empty ▸ eligible).eq_nil
    rw [if_pos none, if_pos rfl, missingCurrent, missingCurrent, ignored]
  | false =>
    have some : ¬ (first.filterMap (eligible? policy nowTs maxFutureSec)).isEmpty = true := by
      intro none
      rw [List.isEmpty_iff.mp none] at eligible
      rw [eligible.symm.eq_nil] at empty
      cases empty
    rw [if_neg some, if_neg (by decide)]

/-- Reductions of lists with the same latest observations are equal. -/
theorem reduceDomain_congr (named : IdsNameContent first) (namedToo : IdsNameContent second)
    (agree : SameLatest policy.domain first second) :
    reduceDomain policy nowTs maxFutureSec first = reduceDomain policy nowTs maxFutureSec second :=
  reduceLatest_congr (latestBySource_perm named namedToo agree) (latestBySource_unique _)

section Evidence

variable {item : ObservationEnvelope} {rule : SourceRule}

/-- Evidence that counts: authoritative, fresh and of an allowed role. -/
structure Counts (policy : DomainPolicy) (nowTs : Int) (item : ObservationContent) (rule : SourceRule) :
    Prop where
  ruled : policy.rule item.source = some rule
  role : item.evidenceRole ∈ rule.roles
  allowed : item.evidenceRole ∈ policy.allowedRoles
  authority : rule.currentAuthority = true
  past : unixTs item.observedAt ≤ nowTs
  fresh : nowTs - unixTs item.observedAt ≤ freshnessLimit rule item

/-- The assessment finds exactly the evidence that counts. -/
theorem eligible?_eq_some {entry : Eligible} :
    eligible? policy nowTs 0 item = some entry ↔
      ∃ rule, Counts policy nowTs item.toObservationContent rule ∧
        entry = ⟨rule.priority, freshnessLimit rule item.toObservationContent, item⟩ := by
  unfold eligible? assess
  cases ruled : policy.rule item.source with
  | none =>
    constructor
    · intro found
      cases found
    · rintro ⟨rule, counts, _⟩
      cases ruled.symm.trans counts.ruled
  | some rule =>
    dsimp only
    have onlyRule : ∀ other, Counts policy nowTs item.toObservationContent other → other = rule := by
      intro other counts
      exact Option.some.inj (counts.ruled.symm.trans ruled)
    constructor
    · intro found
      split_ifs at found with role future stale authority allowed
      refine ⟨rule, ⟨ruled, role, allowed, authority, ?_, ?_⟩,
        (Option.some.inj found).symm⟩
      · simpa using future
      · exact not_lt.mp stale
    · rintro ⟨other, counts, rfl⟩
      obtain rfl := onlyRule other counts
      have past := counts.past
      rw [if_neg (not_not.mpr counts.role), if_neg (by simpa using past),
        if_neg (not_lt.mpr counts.fresh), if_neg (not_not.mpr counts.authority),
        if_neg (not_not.mpr counts.allowed)]

end Evidence

/-- A latest observation of the domain that counts, with its rule. -/
def Evident (policy : DomainPolicy) (nowTs : Int) (items : List ObservationEnvelope)
    (item : ObservationEnvelope) (rule : SourceRule) : Prop :=
  LatestOfSource policy.domain items item ∧ Counts policy nowTs item.toObservationContent rule

/-- Some evidence of the highest priority has the status and none of that priority has the
opposite one. -/
def Carried (policy : DomainPolicy) (nowTs : Int) (items : List ObservationEnvelope)
    (status opposite : ObservationState) : Prop :=
  ∃ item rule, Evident policy nowTs items item rule ∧ item.status = status ∧
    ∀ other otherRule, Evident policy nowTs items other otherRule →
      otherRule.priority ≤ rule.priority ∧
        (otherRule.priority = rule.priority → other.status ≠ opposite)

/-- A policy and a time that the contract of a current has room for. -/
structure WithinContract (policy : DomainPolicy) (nowTs : Int) : Prop where
  bounded : policy.revision.length ≤ 200
  above : MIN_TS ≤ nowTs
  below : nowTs ≤ MAX_TS
  limits : ∀ rule ∈ policy.sources, nowTs + rule.ttlSec ≤ MAX_TS

section Selection

variable {latest : List ObservationEnvelope} {entry : Eligible}

theorem mem_eligible : entry ∈ latest.filterMap (eligible? policy nowTs 0) ↔
    ∃ item ∈ latest, ∃ rule, Counts policy nowTs item.toObservationContent rule ∧
      entry = ⟨rule.priority, freshnessLimit rule item.toObservationContent, item⟩ := by
  simp only [List.mem_filterMap, eligible?_eq_some]

theorem priority_le_topPriority {eligible : List Eligible} (member : entry ∈ eligible) :
    entry.priority ≤ topPriority eligible := by
  have listed := List.mem_map_of_mem member (f := Eligible.priority)
  unfold topPriority
  cases greatest : (eligible.map Eligible.priority).max? with
  | none => rw [List.max?_eq_none_iff.mp greatest] at listed; cases listed
  | some top => exact (List.max?_eq_some_iff.mp greatest).2 _ listed

theorem mem_select {eligible : List Eligible} :
    entry ∈ select eligible ↔ entry ∈ eligible ∧ entry.priority = topPriority eligible := by
  simp [select]

theorem select_ne_nil {eligible : List Eligible} (some : eligible ≠ []) : select eligible ≠ [] := by
  have listed : eligible.map Eligible.priority ≠ [] := by simpa using some
  cases greatest : (eligible.map Eligible.priority).max? with
  | none => exact absurd (List.max?_eq_none_iff.mp greatest) listed
  | some top =>
    obtain ⟨entry, member, same⟩ := List.mem_map.mp (List.max?_eq_some_iff.mp greatest).1
    apply List.ne_nil_of_mem (a := entry)
    refine mem_select.mpr ⟨member, ?_⟩
    simp [topPriority, greatest, same]

/-- The state is bad or good only when the statuses say so without contradiction. -/
theorem stateOf_bad {statuses : List ObservationState} (bad : (stateOf statuses).1 = .bad) :
    .bad ∈ statuses ∧ .good ∉ statuses := by
  unfold stateOf at bad
  split_ifs at bad with both one
  exact ⟨one, fun other => both ⟨one, other⟩⟩

theorem stateOf_good {statuses : List ObservationState} (good : (stateOf statuses).1 = .good) :
    .good ∈ statuses ∧ .bad ∉ statuses := by
  unfold stateOf at good
  split_ifs at good with _ absent one
  exact ⟨one, absent⟩

/-- A status of the selected evidence that none of it contradicts carries the state. -/
theorem carried_of_statuses {status opposite : ObservationState}
    (present : status ∈ (select ((latestBySource (ofDomain policy.domain first)).filterMap
      (eligible? policy nowTs 0))).map fun entry => entry.item.status)
    (absent : opposite ∉ (select ((latestBySource (ofDomain policy.domain first)).filterMap
      (eligible? policy nowTs 0))).map fun entry => entry.item.status)
    (named : IdsNameContent first) : Carried policy nowTs first status opposite := by
  obtain ⟨entry, chosen, same⟩ := List.mem_map.mp present
  obtain ⟨listed, top⟩ := mem_select.mp chosen
  obtain ⟨item, latest, rule, counts, rfl⟩ := mem_eligible.mp listed
  refine ⟨item, rule, ⟨mem_latestBySource latest, counts⟩, same, ?_⟩
  rintro other otherRule ⟨otherLatest, otherCounts⟩
  have held : other ∈ latestBySource (ofDomain policy.domain first) := by
    apply (mem_latestBy_iff ?_).mpr otherLatest
    intro left leftMember right rightMember _ equal
    exact eq_of_recency named (mem_ofDomain.mp leftMember).1 (mem_ofDomain.mp rightMember).1 equal
  have otherListed := mem_eligible.mpr ⟨other, held, otherRule, otherCounts, rfl⟩
  constructor
  · exact (priority_le_topPriority otherListed).trans top.ge
  · intro level contradicts
    apply absent
    rw [← contradicts]
    exact List.mem_map.mpr ⟨_, mem_select.mpr ⟨otherListed, level.trans top⟩, rfl⟩

end Selection

section Accepted

variable {latest : List ObservationEnvelope} {diagnostics : List Diagnostic} {ignored : List Ignored}
  {current : DomainCurrent} {priority : Nat} {selected : List Eligible}

theorem reducer_revision_bounded : boundedRevision REDUCER_REVISION := by decide

/-- The newest observation time of the selected evidence. -/
theorem max?_observed (some : selected ≠ []) :
    ∃ entry ∈ selected, (selected.map fun entry => unixTs entry.item.observedAt).max? =
      Option.some (unixTs entry.item.observedAt) := by
  cases greatest : (selected.map fun entry => unixTs entry.item.observedAt).max? with
  | none => exact absurd (by simpa using List.max?_eq_none_iff.mp greatest) some
  | some newest =>
    obtain ⟨entry, member, same⟩ := List.mem_map.mp (List.max?_eq_some_iff.mp greatest).1
    exact ⟨entry, member, by rw [same]⟩

/-- The soonest end of validity of the selected evidence. -/
theorem min?_valid (some : selected ≠ []) :
    ∃ entry ∈ selected,
      (selected.map fun entry => unixTs entry.item.observedAt + entry.freshnessLimit).min? =
        Option.some (unixTs entry.item.observedAt + entry.freshnessLimit) := by
  cases least : (selected.map fun entry => unixTs entry.item.observedAt + entry.freshnessLimit).min? with
  | none => exact absurd (by simpa using List.min?_eq_none_iff.mp least) some
  | some soonest =>
    obtain ⟨entry, member, same⟩ := List.mem_map.mp (List.min?_eq_some_iff.mp least).1
    exact ⟨entry, member, by rw [same]⟩

theorem missingCurrent_accepted (within : WithinContract policy nowTs) :
    ∃ current, missingCurrent policy nowTs diagnostics ignored = .ok current := by
  unfold missingCurrent
  rw [utcText_of_mem within.above within.below, ok_bind]
  exact create_accepts le_rfl ⟨policy.revised, within.bounded⟩ reducer_revision_bounded le_rfl

/-- Selected evidence that counts makes a current the contract accepts. -/
theorem selectedCurrent_accepted (within : WithinContract policy nowTs) (some : selected ≠ [])
    (counted : ∀ entry ∈ selected, ∃ rule, Counts policy nowTs entry.item.toObservationContent rule ∧
      entry.freshnessLimit = freshnessLimit rule entry.item.toObservationContent) :
    ∃ current, selectedCurrent policy nowTs priority selected diagnostics ignored = .ok current := by
  obtain ⟨newest, newestMember, observed⟩ := max?_observed some
  obtain ⟨soonest, soonestMember, valid⟩ := min?_valid some
  obtain ⟨_, newestCounts, _⟩ := counted newest newestMember
  obtain ⟨rule, soonestCounts, limit⟩ := counted soonest soonestMember
  have past := newestCounts.past
  have fresh := soonestCounts.fresh
  have soonestPast := soonestCounts.past
  have ruled : rule ∈ policy.sources := List.mem_of_find?_eq_some soonestCounts.ruled
  have bound := within.limits rule ruled
  have shorter : freshnessLimit rule soonest.item.toObservationContent ≤ rule.ttlSec := min_le_left _ _
  have lowest := MIN_TS_le_unixTs newest.item.observedAt
  have floor := within.above
  have ceiling := within.below
  unfold selectedCurrent
  rw [observed, valid, Option.getD_some, Option.getD_some, limit]
  dsimp only
  rw [utcText_of_mem lowest (past.trans ceiling), ok_bind, utcText_of_mem floor ceiling, ok_bind,
    utcText_of_mem (by omega) (by omega), ok_bind]
  exact create_accepts past ⟨policy.revised, within.bounded⟩ reducer_revision_bounded (by omega)

/-- A reduction within the contract never raises. -/
theorem reduceLatest_accepted (within : WithinContract policy nowTs) :
    ∃ current, reduceLatest policy nowTs 0 latest = .ok current := by
  unfold reduceLatest
  dsimp only
  by_cases none : (latest.filterMap (eligible? policy nowTs 0)).isEmpty = true
  · rw [if_pos none]
    exact missingCurrent_accepted within
  · rw [if_neg none]
    apply selectedCurrent_accepted within
    · apply select_ne_nil
      intro empty
      exact none (by simp [empty])
    · intro entry chosen
      obtain ⟨item, _, rule, counts, rfl⟩ := mem_eligible.mp (mem_select.mp chosen).1
      exact ⟨rule, counts, rfl⟩

theorem missingCurrent_created (made : missingCurrent policy nowTs diagnostics ignored = .ok current) :
    ∃ payload, Created policy.domain .unknown [.missingCurrentEvidence] nowTs nowTs nowTs payload current := by
  unfold missingCurrent at made
  obtain ⟨reducedAt, text, created⟩ := bind_eq_ok.mp made
  obtain ⟨rfl, _⟩ := utcText_eq_ok.mp text
  exact ⟨_, create_eq_ok created⟩

theorem selectedCurrent_created
    (made : selectedCurrent policy nowTs priority selected diagnostics ignored = .ok current) :
    ∃ payload, Created policy.domain (stateOf (selected.map fun entry => entry.item.status)).1
      [(stateOf (selected.map fun entry => entry.item.status)).2]
      (((selected.map fun entry => unixTs entry.item.observedAt).max?).getD 0) nowTs
      (((selected.map fun entry => unixTs entry.item.observedAt + entry.freshnessLimit).min?).getD 0)
      payload current := by
  unfold selectedCurrent at made
  dsimp only at made
  obtain ⟨_, observedText, made⟩ := bind_eq_ok.mp made
  obtain ⟨_, reducedText, made⟩ := bind_eq_ok.mp made
  obtain ⟨_, validText, created⟩ := bind_eq_ok.mp made
  obtain ⟨rfl, _⟩ := utcText_eq_ok.mp observedText
  obtain ⟨rfl, _⟩ := utcText_eq_ok.mp reducedText
  obtain ⟨rfl, _⟩ := utcText_eq_ok.mp validText
  exact ⟨_, create_eq_ok created⟩

/-- The state of a reduction comes from its selected evidence, or is unknown. -/
theorem state_of_reduceLatest (made : reduceLatest policy nowTs maxFutureSec latest = .ok current) :
    current.state = .unknown ∨ current.state = (stateOf ((select (latest.filterMap
      (eligible? policy nowTs maxFutureSec))).map fun entry => entry.item.status)).1 := by
  unfold reduceLatest at made
  dsimp only at made
  split at made
  · obtain ⟨_, created⟩ := missingCurrent_created made
    exact Or.inl created.sameState
  · obtain ⟨_, created⟩ := selectedCurrent_created made
    exact Or.inr created.sameState

end Accepted

/-- The reduction of a domain depends on its latest observations only: lists that differ in
order, in repetitions or by outdated observations give the same result, which is a current
whenever the contract has room for the policy and the time, and is bad or good only on
uncontradicted evidence of the highest priority. -/
theorem reduceDomain_latest_only (named : IdsNameContent first) (namedToo : IdsNameContent second)
    (agree : SameLatest policy.domain first second) :
    reduceDomain policy nowTs 0 first = reduceDomain policy nowTs 0 second ∧
    (WithinContract policy nowTs → ∃ current, reduceDomain policy nowTs 0 first = .ok current) ∧
    ∀ current, reduceDomain policy nowTs 0 first = .ok current →
      (current.state = .bad → Carried policy nowTs first .bad .good) ∧
      (current.state = .good → Carried policy nowTs first .good .bad) := by
  refine ⟨reduceDomain_congr named namedToo agree, reduceLatest_accepted, ?_⟩
  intro current made
  have origin := state_of_reduceLatest made
  constructor
  · intro bad
    rw [bad] at origin
    obtain ⟨present, absent⟩ := stateOf_bad (origin.resolve_left (by decide)).symm
    exact carried_of_statuses present absent named
  · intro good
    rw [good] at origin
    obtain ⟨present, absent⟩ := stateOf_good (origin.resolve_left (by decide)).symm
    exact carried_of_statuses present absent named

theorem report_lasts : (0 : Nat) < 300 := by decide

theorem policy_revised : SOURCE_POLICY_REVISION ≠ "" := by decide

/-- A report of the delivery watchdog. -/
def watchdogReport (status : ObservationState) : ObservationEnvelope where
  domain := .delivery
  source := "runtime_delivery_watchdog"
  evidenceRole := .currentAuthoritative
  status := status
  reasonCode := "delivery_report"
  observedAt := ⟨"1970-01-01T00:16:30Z", 990000000, by decide, by decide⟩
  freshnessLimitSec := 300
  payload := []
  positive := report_lasts
  observationId := "obs:0123456789abcdef01234567"
  receivedTs := 990
  ordered := by decide

/-- A report on the connection to the ingest. -/
def tcpReport (status : ObservationState) : ObservationEnvelope where
  domain := .delivery
  source := "rtmps_tcp"
  evidenceRole := .currentAuthoritative
  status := status
  reasonCode := "tcp_report"
  observedAt := ⟨"1970-01-01T00:16:40Z", 1000000000, by decide, by decide⟩
  freshnessLimitSec := 300
  payload := []
  positive := report_lasts
  observationId := "obs:76543210fedcba9876543210"
  receivedTs := 1000
  ordered := by decide

theorem reduceDomain_latest_only_delivery :
    reduceDomain (DEFAULT_POLICIES .delivery) 1000 0 [watchdogReport .bad, tcpReport .bad] =
      reduceDomain (DEFAULT_POLICIES .delivery) 1000 0
        [tcpReport .bad, watchdogReport .bad, tcpReport .bad] := by
  have agree : SameLatest .delivery [watchdogReport .bad, tcpReport .bad]
      [tcpReport .bad, watchdogReport .bad, tcpReport .bad] := by
    apply sameLatest_of_mem_iff
    intro item
    simp [or_comm]
  have named : IdsNameContent [watchdogReport .bad, tcpReport .bad] := by
    unfold IdsNameContent
    decide
  have namedToo : IdsNameContent [tcpReport .bad, watchdogReport .bad, tcpReport .bad] := by
    unfold IdsNameContent
    decide
  exact (reduceDomain_latest_only named namedToo agree).1

/-- A policy of the delivery whose only source may be trusted for thirty thousand years. -/
def lastingPolicy : DomainPolicy where
  domain := .delivery
  sources := [{ source := "rtmps_tcp", priority := 100, ttlSec := 1000000000000 }]
  revised := policy_revised

/-- A revision of 201 characters, which a policy may have and a current may not. -/
def lengthyPolicy : DomainPolicy where
  domain := .delivery
  sources := []
  revision := String.ofList (List.replicate 201 'r')
  revised := by
    intro empty
    have length := congrArg String.length empty
    rw [String.length_ofList, List.length_replicate] at length
    cases length

def lastingReport : ObservationEnvelope :=
  { tcpReport .good with freshnessLimitSec := 1000000000000, positive := by decide }

/-- Outside the contract a reduction raises, and the order tells observations of one id apart. -/
theorem reduceDomain_outside_contract :
    reduceDomain lengthyPolicy 0 0 [] =
        .error (valueError "policy_revision must contain 1-200 characters") ∧
      reduceDomain (DEFAULT_POLICIES .delivery) 253402300800 0 [] =
        .error (valueError "year is out of range") ∧
      reduceDomain lastingPolicy 1000 0 [lastingReport] = .error (valueError "year is out of range") ∧
      reduceDomain (DEFAULT_POLICIES .delivery) 1000 0 [watchdogReport .bad, watchdogReport .good] ≠
        reduceDomain (DEFAULT_POLICIES .delivery) 1000 0 [watchdogReport .good, watchdogReport .bad] := by
  refine ⟨?_, by decide, by decide, by decide⟩
  have lengthy : ¬ boundedRevision lengthyPolicy.revision := by
    rintro ⟨_, bounded⟩
    rw [lengthyPolicy, String.length_ofList, List.length_replicate] at bounded
    omega
  have missing : reduceDomain lengthyPolicy 0 0 [] = missingCurrent lengthyPolicy 0 [] [] := rfl
  rw [missing, missingCurrent, utcText_of_mem (by decide) (by decide), ok_bind]
  simp [DomainCurrent.create, lengthy]

end LiveStream.Monitoring
