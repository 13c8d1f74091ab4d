import LiveStream.Monitoring.CurrentStore
import LiveStream.Monitoring.Reduction
import LiveStream.Support.Run

/-! The canonical currents over any sequence of appended observations and reducer calls. -/

namespace LiveStream.Monitoring

open LiveStream.Support

section Reduced

variable {policy : DomainPolicy} {nowTs maxFutureSec : Int} {items : List ObservationEnvelope}
  {current : DomainCurrent}

/-- A reduced current is of the policy's domain and of the time of the reduction. -/
theorem reduceLatest_made (made : reduceLatest policy nowTs maxFutureSec items = .ok current) :
    current.domain = policy.domain ∧ current.reducedAt = nowTs ∧
      current.snapshotId.domain = current.domain := by
  unfold reduceLatest at made
  dsimp only at made
  split at made
  · obtain ⟨_, created⟩ := missingCurrent_created made
    exact ⟨created.sameDomain, created.reduced, created.named.trans created.sameDomain.symm⟩
  · obtain ⟨_, created⟩ := selectedCurrent_created made
    exact ⟨created.sameDomain, created.reduced, created.named.trans created.sameDomain.symm⟩

end Reduced

variable {tables final : CurrentTables} {policies : PolicyTable} {domains : List Domain} {nowTs : Int}
  {snapshots canonical : List DomainCurrent}

theorem snapshotOf_made {domain : Domain} {snapshot : DomainCurrent}
    (made : snapshotOf tables policies nowTs domain = .ok snapshot) :
    snapshot.domain = domain ∧ snapshot.reducedAt = nowTs ∧
      snapshot.snapshotId.domain = snapshot.domain := by
  obtain ⟨policy, found, reduced⟩ := bind_eq_ok.mp made
  have facts := reduceLatest_made reduced
  rw [policies.named domain policy (orReject_eq_ok.mp found)] at facts
  exact facts

/-- The snapshots of one call: of its time, and one a domain however often it is named. -/
structure OfOneCall (nowTs : Int) (snapshots : List DomainCurrent) : Prop where
  reduced : ∀ snapshot ∈ snapshots, snapshot.reducedAt = nowTs
  single : ∀ left ∈ snapshots, ∀ right ∈ snapshots, left.domain = right.domain → left = right

theorem mem_mapM {α β ε : Type} {compute : α → Except ε β} {items : List α} {results : List β}
    (done : items.mapM compute = .ok results) :
    ∀ result ∈ results, ∃ item ∈ items, compute item = .ok result := by
  induction items generalizing results with
  | nil =>
    cases done
    simp
  | cons item rest inductionHypothesis =>
    rw [List.mapM_cons] at done
    obtain ⟨first, computed, done⟩ := bind_eq_ok.mp done
    obtain ⟨later, others, same⟩ := bind_eq_ok.mp done
    cases same
    intro result member
    rcases List.mem_cons.mp member with rfl | member
    · exact ⟨item, List.mem_cons_self, computed⟩
    · obtain ⟨source, listed, found⟩ := inductionHypothesis others result member
      exact ⟨source, List.mem_cons_of_mem _ listed, found⟩

theorem ofOneCall (done : domains.mapM (snapshotOf tables policies nowTs) = .ok snapshots) :
    OfOneCall nowTs snapshots := by
  constructor
  · intro snapshot member
    obtain ⟨_, _, made⟩ := mem_mapM done snapshot member
    exact (snapshotOf_made made).2.1
  · intro left leftMember right rightMember same
    obtain ⟨_, _, leftMade⟩ := mem_mapM done left leftMember
    obtain ⟨_, _, rightMade⟩ := mem_mapM done right rightMember
    rw [← (snapshotOf_made leftMade).1, same, (snapshotOf_made rightMade).1, rightMade] at leftMade
    exact (Except.ok.inj leftMade).symm

theorem OfOneCall.tail {snapshot : DomainCurrent} (call : OfOneCall nowTs (snapshot :: snapshots)) :
    OfOneCall nowTs snapshots where
  reduced other member := call.reduced other (List.mem_cons_of_mem _ member)
  single left leftMember right rightMember :=
    call.single left (List.mem_cons_of_mem _ leftMember) right (List.mem_cons_of_mem _ rightMember)

/-- A row that no snapshot still to be saved would change. -/
structure Settled (tables : CurrentTables) (row : DomainCurrent) (snapshots : List DomainCurrent) :
    Prop where
  stored : currentOf tables row.domain = some row
  kept : ∀ snapshot ∈ snapshots, snapshot.domain = row.domain →
    snapshot = row ∨ ¬ supersedes snapshot row

/-- A save leaves a settled row as it is. -/
theorem Settled.saveCurrent {row snapshot : DomainCurrent} {saved : CurrentTables} {wrote : Bool}
    (settled : Settled tables row (snapshot :: snapshots))
    (done : saveCurrent tables snapshot = .ok (saved, wrote)) : Settled saved row snapshots := by
  refine ⟨?_, fun other member => settled.kept other (List.mem_cons_of_mem _ member)⟩
  rcases saveCurrent_cases done with ⟨_, writes, own, others⟩ | ⟨_, _, others⟩
  · by_cases same : snapshot.domain = row.domain
    · rcases settled.kept snapshot List.mem_cons_self same with rfl | refused
      · exact own
      · rw [written, same, settled.stored] at writes
        exact absurd (of_decide_eq_true writes) refused
    · rw [others row.domain (Ne.symm same), settled.stored]
  · rw [others row.domain, settled.stored]

theorem saveAll_cons {snapshot : DomainCurrent} {rest : List DomainCurrent}
    (done : saveAll tables (snapshot :: rest) = .ok (final, canonical)) :
    ∃ saved wrote selected later, saveCurrent tables snapshot = .ok (saved, wrote) ∧
      canonicalOf saved snapshot wrote = .ok selected ∧ saveAll saved rest = .ok (final, later) ∧ canonical = selected :: later := by
  rw [saveAll] at done
  obtain ⟨⟨saved, wrote⟩, stored, done⟩ := bind_eq_ok.mp done
  obtain ⟨selected, chosen, done⟩ := bind_eq_ok.mp done
  obtain ⟨⟨_, later⟩, others, same⟩ := bind_eq_ok.mp done
  cases same
  exact ⟨saved, wrote, selected, later, stored, chosen, others, rfl⟩

theorem Settled.saveAll {row : DomainCurrent} (settled : Settled tables row snapshots)
    (done : saveAll tables snapshots = .ok (final, canonical)) :
    currentOf final row.domain = some row := by
  induction snapshots generalizing tables canonical with
  | nil =>
    cases done
    exact settled.stored
  | cons snapshot rest inductionHypothesis =>
    obtain ⟨_, _, _, _, stored, _, others, _⟩ := saveAll_cons done
    exact inductionHypothesis (settled.saveCurrent stored) others

/-- After its save, the current chosen for a domain is its row, still valid at the time of the
call, and settled. -/
theorem chosen_settled {snapshot selected : DomainCurrent} {saved : CurrentTables} {wrote : Bool}
    (call : OfOneCall nowTs (snapshot :: snapshots))
    (done : saveCurrent tables snapshot = .ok (saved, wrote))
    (chosen : canonicalOf saved snapshot wrote = .ok selected) :
    nowTs ≤ selected.validUntil ∧ Settled saved selected snapshots := by
  have timely := call.reduced snapshot List.mem_cons_self
  have only : ∀ other ∈ snapshots, other.domain = snapshot.domain → other = snapshot :=
    fun other member same =>
      call.single other (List.mem_cons_of_mem _ member) snapshot List.mem_cons_self same
  rcases saveCurrent_cases done with ⟨rfl, _, own, _⟩ | ⟨rfl, refused, others⟩
  · obtain rfl : snapshot = selected := Except.ok.inj chosen
    refine ⟨timely ▸ snapshot.validLast, own, ?_⟩
    intro other member same
    exact Or.inl (only other member same)
  · have found : currentOf saved snapshot.domain = some selected := orReject_eq_ok.mp chosen
    have named := domain_of_currentOf found
    have kept : ¬ supersedes snapshot selected := by
      rw [others snapshot.domain] at found
      rw [written, found] at refused
      exact of_decide_eq_false refused
    refine ⟨?_, named ▸ found, ?_⟩
    · by_contra expired
      exact kept (Or.inr (Or.inr (by omega)))
    · intro other member same
      rw [only other member (same.trans named)]
      exact Or.inr kept

/-- Every current a call returns is valid at its time and is the row of its domain at its end. -/
theorem saveAll_canonical (call : OfOneCall nowTs snapshots)
    (done : saveAll tables snapshots = .ok (final, canonical)) :
    ∀ current ∈ canonical, nowTs ≤ current.validUntil ∧
      currentOf final current.domain = some current := by
  induction snapshots generalizing tables canonical with
  | nil =>
    cases done
    simp
  | cons snapshot rest inductionHypothesis =>
    obtain ⟨saved, wrote, selected, later, stored, chosen, others, rfl⟩ := saveAll_cons done
    obtain ⟨valid, settled⟩ := chosen_settled call stored chosen
    intro current member
    rcases List.mem_cons.mp member with rfl | member
    · exact ⟨valid, settled.saveAll others⟩
    · exact inductionHypothesis call.tail others current member

/-- A call leaves the row of a domain, or a snapshot of its own that supersedes it. -/
theorem saveAll_row {domain : Domain} {stored : DomainCurrent} (call : OfOneCall nowTs snapshots)
    (found : currentOf tables domain = some stored)
    (done : saveAll tables snapshots = .ok (final, canonical)) :
    currentOf final domain = some stored ∨
      ∃ snapshot, currentOf final domain = some snapshot ∧ supersedes snapshot stored := by
  induction snapshots generalizing tables canonical with
  | nil =>
    cases done
    exact Or.inl found
  | cons snapshot rest inductionHypothesis =>
    obtain ⟨saved, wrote, selected, later, first, chosen, others, rfl⟩ := saveAll_cons done
    obtain ⟨_, settled⟩ := chosen_settled call first chosen
    rcases saveCurrent_cases first with ⟨rfl, writes, _, apart⟩ | ⟨_, _, same⟩
    · obtain rfl : snapshot = selected := Except.ok.inj chosen
      by_cases here : domain = snapshot.domain
      · subst here
        rw [written, found] at writes
        exact Or.inr ⟨snapshot, settled.saveAll others, of_decide_eq_true writes⟩
      · exact inductionHypothesis call.tail ((apart domain here).trans found) others
    · exact inductionHypothesis call.tail ((same domain).trans found) others

@[simp] theorem currentOf_appendObservation {item : ObservationEnvelope} {domain : Domain} :
    currentOf (appendObservation tables item) domain = currentOf tables domain := by
  unfold appendObservation
  split <;> rfl

/-- In every run of appends and reducer calls, whatever their clocks and policies, each current
that a call returns is valid at its time and is the row of its domain when the call ends, and a
row gives way to an older observation only after it has expired. -/
theorem returned_current_valid_and_stored (start : CurrentTables) (turns : List Turn) :
    ∀ taken ∈ trace turn start turns,
      (∀ policies domains nowTs canonical, taken.event = .reduce policies domains nowTs →
        taken.output = some canonical → ∀ current ∈ canonical,
          nowTs ≤ current.validUntil ∧ currentOf taken.after current.domain = some current) ∧
      ∀ domain stored fresh, currentOf taken.before domain = some stored →
        currentOf taken.after domain = some fresh → fresh.observedAt < stored.observedAt →
          stored.validUntil < fresh.reducedAt := by
  intro taken member
  have step := eq_take_of_mem taken member
  obtain ⟨before, event, output, after⟩ := taken
  obtain ⟨rfl, rfl⟩ : output = (turn before event).2 ∧ after = (turn before event).1 := by
    simpa [take] using step
  clear step member
  -- a row that stays has no smaller observation time
  have unchanged : ∀ {domain : Domain} {stored fresh : DomainCurrent},
      currentOf before domain = some stored → currentOf before domain = some fresh →
      ¬ fresh.observedAt < stored.observedAt := by
    intro domain stored fresh first second
    rw [Option.some.inj (first.symm.trans second)]
    exact lt_irrefl _
  cases event with
  | append item =>
    refine ⟨fun _ _ _ _ other => absurd other (by simp), ?_⟩
    intro domain stored fresh old new older
    exact absurd older (unchanged old (currentOf_appendObservation.symm.trans new))
  | reduce policies domains nowTs =>
    cases outcome : reduce before policies domains nowTs with
    | error error =>
      simp only [turn, outcome]
      refine ⟨fun _ _ _ _ _ none => absurd none (by simp), ?_⟩
      intro domain stored fresh old new older
      exact absurd older (unchanged old new)
    | ok left =>
      obtain ⟨final, canonical⟩ := left
      simp only [turn, outcome]
      obtain ⟨snapshots, computed, done⟩ := bind_eq_ok.mp outcome
      have call := ofOneCall computed
      constructor
      · rintro _ _ _ _ same returned current listed
        cases same
        cases returned
        exact saveAll_canonical call done current listed
      · intro domain stored fresh old new older
        rcases saveAll_row call old done with same | ⟨snapshot, written, supersedes⟩
        · rw [Option.some.inj (same.symm.trans new)] at older
          exact absurd older (lt_irrefl _)
        · obtain rfl := Option.some.inj (written.symm.trans new)
          rcases supersedes with newer | ⟨equal, _⟩ | expired
          · omega
          · omega
          · exact expired

/-- The policies that the shadow cycle reduces with. -/
def defaultPolicies : PolicyTable where
  policy domain := some (DEFAULT_POLICIES domain)
  named := by
    intro domain found same
    obtain rfl := Option.some.inj same
    cases domain <;> rfl

/-- The delivery while the report on the connection lasts, and once it has gone stale. -/
def deliveryTurns : List Turn :=
  [.append (watchdogReport .bad), .append (tcpReport .bad), .reduce defaultPolicies [.delivery] 1000,
    .reduce defaultPolicies [.delivery] 1061]

theorem returned_current_valid_and_stored_delivery :
    ∃ taken ∈ trace turn .empty deliveryTurns, ∃ current, taken.output = some [current] ∧
      current.observedAt = 990 ∧ 1061 ≤ current.validUntil ∧
      currentOf taken.after current.domain = some current := by
  have length : 3 < (trace turn .empty deliveryTurns).length := by decide
  have listed := List.getElem_mem length
  have seen : ((trace turn .empty deliveryTurns)[3]).output.map
      (List.map DomainCurrent.observedAt) = some [990] := by
    clear listed
    revert length
    decide
  obtain ⟨canonical, returned, observed⟩ := Option.map_eq_some_iff.mp seen
  obtain ⟨current, rfl, same⟩ := List.map_eq_singleton_iff.mp observed
  have ⟨valid, _⟩ := returned_current_valid_and_stored .empty deliveryTurns _ listed
  have ⟨timely, stored⟩ := valid defaultPolicies [.delivery] 1061 [current] rfl returned current
    (List.mem_singleton.mpr rfl)
  exact ⟨_, listed, current, returned, same, timely, stored⟩

end LiveStream.Monitoring
