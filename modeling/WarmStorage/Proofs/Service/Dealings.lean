import WarmStorage.Proofs.Ledger.Rails
import WarmStorage.Proofs.Service.Atomicity

/-!
What a call does to data sets and to the ledger that pays for them, also when it is refused. Data
sets keep the contract that they were created with, and their end is recorded by the service or on
a report of the ledger. The ledger is changed in few ways: rails are opened, ended, or changed in
one respect.
-/

namespace WarmStorage

/-- What a payer and a provider agree on when a data set is created, and cannot change. -/
structure DataSet.Contract where
  payer : Address
  payee : Address
  commissionBps : UInt16
  storageRail : RailId
  cacheMissRail : Option RailId
  cdnRail : Option RailId

def DataSet.contract (d : DataSet) : DataSet.Contract :=
  ⟨d.payer, d.payee, d.commissionBps, d.storageRail, d.cacheMissRail, d.cdnRail⟩

theorem DataSet.egressRails_of_contract {d d' : DataSet} (h : d'.contract = d.contract) :
    d'.egressRails = d.egressRails := by
  injection h with _ _ _ _ hcacheMiss hcdn
  unfold Deal.egressRails
  rw [hcacheMiss, hcdn]

theorem DataSet.storageRail_of_contract {d d' : DataSet} (h : d'.contract = d.contract) :
    d'.storageRail = d.storageRail := by
  injection h

def Config.SameParties (c c' : Config) : Prop :=
  c' = { c with
    commissionBps := c'.commissionBps
    proving := c'.proving
    pricing := c'.pricing }

namespace ServiceM

theorem contract_endedDataSet (d : DataSet) (endEpoch : Epoch) :
    (endedDataSet d endEpoch).contract = d.contract := by
  unfold endedDataSet
  split
  · rfl
  · rfl

@[simp]
theorem endEpoch_endedDataSet (d : DataSet) (endEpoch : Epoch) :
    (endedDataSet d endEpoch).endEpoch = endEpoch := by
  unfold endedDataSet
  split
  · rfl
  · rfl

end ServiceM

namespace Service

open ServiceM

variable {s s' : Service} {l l' : Ledger} {ctx : CallContext} {c : Call} {id other : DataSetId}
  {d d' : DataSet} {rail otherRail : RailId} {r : Rail} {amount : TokenAmount}
  {e : ServiceError} {reply : Reply} {answer : Except ServiceError Reply}

inductive Dealing (s : ServiceState) (l l' : Ledger) : Prop where
  | opened {terms : RailTerms} {period : UInt64} {fixed : TokenAmount} {rail : RailId}
      (h : RailOpened l terms period fixed rail l')
  | repriced {rail : RailId} {rate : TokenAmount} (h : l.modifyPayment rail rate 0 = .ok l')
  | ended {rail : RailId} {epoch endEpoch : Epoch}
      (h : l.terminate rail epoch = .ok (endEpoch, l'))
  | raised {rail : RailId} {r : Rail} {fixed : TokenAmount} (hr : l.rail? rail = some r)
      (h : l.modifyLockup rail r.lockupPeriod fixed = .ok l')
  | charged {id : DataSetId} {d : DataSet} {rail : RailId} {r : Rail} {amount : TokenAmount}
      (hd : s.dataSet? id = some d) (hrail : rail ∈ d.egressRails) (hr : l.rail? rail = some r)
      (h : l.modifyPayment rail r.rate amount = .ok l')

abbrev Dealings (s : ServiceState) : Ledger → Ledger → Prop :=
  Relation.ReflTransGen (Dealing s)

theorem dealings_of_railsOpened {cfg : Config} {terms : RailTerms} {withCdn : Bool}
    {egress : Option RailId × Option RailId} (h : RailsOpened l cfg terms withCdn rail egress l') :
    Dealings s.state l l' := by
  obtain ⟨m, hstorage, ⟨-, _, _, m', -, hcacheMiss, hcdn⟩ | ⟨-, -, rfl⟩⟩ := h
  · exact ((Relation.ReflTransGen.single (.opened hstorage)).tail (.opened hcacheMiss)).tail
      (.opened hcdn)
  · exact .single (.opened hstorage)

theorem dealings_of_railsTerminated {epoch : Epoch} {rails : List RailId}
    (h : RailsTerminated epoch rails l l') : Dealings s.state l l' := by
  induction rails generalizing l with
  | nil =>
    rw [show l' = l from h]
  | cons rail rails ih =>
    obtain ⟨endEpoch, m, hrail, hrails⟩ := h
    exact (ih hrails).head (.ended hrail)

theorem dealings_of_lockupRaised {fixed : TokenAmount} (hr : l.rail? rail = some r)
    (h : LockupRaised l rail r amount fixed l') : Dealings s.state l l' := by
  obtain ⟨-, rfl⟩ | ⟨-, h⟩ := h
  · exact .refl
  · exact .single (.raised hr h)

theorem dealings_of_charged (hd : s.state.dataSet? id = some d) (hrail : rail ∈ d.egressRails)
    (hr : l.rail? rail = some r) (h : Charged l rail r.rate amount l') :
    Dealings s.state l l' := by
  obtain ⟨-, rfl⟩ | ⟨-, h⟩ := h
  · exact .refl
  · exact .single (.charged hd hrail hr h)

theorem rail?_of_lockupRaised {fixed : TokenAmount} (h : LockupRaised l rail r amount fixed l')
    (hne : rail ≠ otherRail) : l'.rail? otherRail = l.rail? otherRail := by
  obtain ⟨-, rfl⟩ | ⟨-, h⟩ := h
  · rfl
  · obtain ⟨_, -, -, hrails⟩ := Ledger.rail?_of_modifyLockup h
    rw [hrails, if_neg hne]

theorem rail?_of_charged {rate : TokenAmount} (h : Charged l rail rate amount l')
    (hne : rail ≠ otherRail) : l'.rail? otherRail = l.rail? otherRail := by
  obtain ⟨-, rfl⟩ | ⟨-, h⟩ := h
  · rfl
  · obtain ⟨_, -, -, hrails⟩ := Ledger.rail?_of_modifyPayment h
    rw [hrails, if_neg hne]

theorem egressRails_of_indexed (h : s.state.Indexed) (hd : s.state.dataSet? id = some d)
    {cdnRail cacheMissRail : RailId} (hcdn : d.cdnRail = some cdnRail)
    (hcacheMiss : d.cacheMissRail = some cacheMissRail) :
    cdnRail ∈ d.egressRails ∧ cacheMissRail ∈ d.egressRails ∧ cdnRail ≠ cacheMissRail := by
  have hdistinct := (h.dataSet id d hd).distinct
  rw [Deal.railIds, Deal.egressRails, hcdn, hcacheMiss] at hdistinct
  rw [Deal.egressRails, hcdn, hcacheMiss]
  simp at hdistinct
  simp [Ne.symm hdistinct.2]

inductive Descends (ctx : CallContext) (c : Call) (s s' : Service) (id : DataSetId)
    (d' : DataSet) : Prop where
  | kept {d : DataSet} (hd : s.state.dataSet? id = some d) (contract : d'.contract = d.contract)
      (endEpoch : d'.endEpoch = d.endEpoch)
  | reported {d : DataSet} (hd : s.state.dataSet? id = some d)
      (contract : d'.contract = d.contract) (caller : ctx.caller = s.state.config.payments)
      (call : c = .railTerminated d.storageRail d'.endEpoch)
  | ended {d : DataSet} {l : Ledger} (hd : s.state.dataSet? id = some d)
      (contract : d'.contract = d.contract)
      (storage : s.ledger.terminate d.storageRail ctx.epoch = .ok (d'.endEpoch, l))
      (egress : RailsTerminated ctx.epoch (liveEgress s.ledger d) l s'.ledger)
  | created {withCdn : Bool} (unused : s.state.dataSet? id = none)
      (commissionBps : d'.commissionBps = s.state.config.commissionBps)
      (rails : RailsOpened s.ledger s.state.config
        (storageTerms s.state.config d'.payer d'.payee) withCdn d'.storageRail
        (d'.cacheMissRail, d'.cdnRail) s'.ledger)
      (endEpoch : d'.endEpoch = 0)

theorem Descends.contract_or_created (h : Descends ctx c s s' id d') :
    (∃ d, s.state.dataSet? id = some d ∧ d'.contract = d.contract) ∨
    ∃ withCdn, d'.commissionBps = s.state.config.commissionBps ∧
      RailsOpened s.ledger s.state.config (storageTerms s.state.config d'.payer d'.payee) withCdn
        d'.storageRail (d'.cacheMissRail, d'.cdnRail) s'.ledger := by
  cases h with
  | kept hd contract _ => exact .inl ⟨_, hd, contract⟩
  | reported hd contract _ _ => exact .inl ⟨_, hd, contract⟩
  | ended hd contract _ _ => exact .inl ⟨_, hd, contract⟩
  | created _ commissionBps rails _ => exact .inr ⟨_, commissionBps, rails⟩

theorem descends_of_same (h : s'.state.dataSets = s.state.dataSets)
    (hd' : s'.state.dataSet? id = some d') : Descends ctx c s s' id d' := by
  refine .kept ?_ rfl rfl
  rw [ServiceState.dataSet?, ← h]
  exact hd'

theorem descends_of_insert (hdataSets : s'.state.dataSets = s.state.dataSets.insert other d)
    (hother : Descends ctx c s s' other d) (hd' : s'.state.dataSet? id = some d') :
    Descends ctx c s s' id d' := by
  rw [ServiceState.dataSet?, hdataSets, Std.ExtTreeMap.getElem?_insert] at hd'
  split at hd'
  · rename_i heq
    rw [Std.compare_eq_iff_eq] at heq
    cases hd'
    rw [← heq]
    exact hother
  · exact .kept hd' rfl rfl

/-- What a call does, whether it succeeds or not. -/
structure Outcome (ctx : CallContext) (c : Call) (s s' : Service) : Prop where
  parties : s.state.config.SameParties s'.state.config
  dealings : Dealings s.state s.ledger s'.ledger
  dataSets : ∀ id d', s'.state.dataSet? id = some d' → Descends ctx c s s' id d'

theorem outcome_of_same (hdataSets : s'.state.dataSets = s.state.dataSets)
    (parties : s.state.config.SameParties s'.state.config)
    (dealings : Dealings s.state s.ledger s'.ledger) : Outcome ctx c s s' :=
  ⟨parties, dealings, fun _ _ hd' => descends_of_same hdataSets hd'⟩

theorem outcome_of_insert (hdataSets : s'.state.dataSets = s.state.dataSets.insert id d)
    (hconfig : s'.state.config = s.state.config) (hd : Descends ctx c s s' id d)
    (dealings : Dealings s.state s.ledger s'.ledger) : Outcome ctx c s s' := by
  refine ⟨?_, dealings, fun _ _ hd' => descends_of_insert hdataSets hd hd'⟩
  rw [hconfig]
  rfl

theorem OwnerSets.sameParties {config : Config} {approved : Std.ExtTreeSet ProviderId}
    {event : Event} (h : s.OwnerSets c config approved event) :
    s.state.config.SameParties config := by
  cases h
  all_goals rfl

theorem outcome_of_succeeds (indexed : s.state.Indexed)
    (h : Succeeds (perform ctx c) s reply s') : Outcome ctx c s s' := by
  cases performed_of_succeeds h with
  | created checked rails =>
    exact outcome_of_insert rfl rfl (.created checked.unused rfl rails rfl)
      (dealings_of_railsOpened rails)
  | extended _ hd => exact outcome_of_insert rfl rfl (.kept hd rfl rfl) .refl
  | scheduled => exact outcome_of_same rfl rfl .refl
  | proven => exact outcome_of_same rfl rfl .refl
  | advanced _ _ _ _ _ priced =>
    refine outcome_of_same rfl rfl ?_
    obtain ⟨-, -, rfl⟩ | ⟨-, r, -, -, hl⟩ := priced
    · exact .refl
    · exact .single (.repriced hl)
  | deleted _ hd =>
    refine ⟨rfl, .refl, fun other d' hd' => ?_⟩
    rw [ServiceState.dataSet?_withoutDataSet] at hd'
    split at hd'
    · contradiction
    · exact .kept hd' rfl rfl
  | reassigned _ hd => exact outcome_of_insert rfl rfl (.kept hd rfl rfl) .refl
  | reported caller hd => exact outcome_of_insert rfl rfl (.reported hd rfl caller rfl) .refl
  | ignored => exact outcome_of_same rfl rfl .refl
  | arbitrated => exact outcome_of_same rfl rfl .refl
  | @ended _ endEpoch d _ _ hd _ _ storage egress =>
    refine outcome_of_insert rfl rfl (.ended hd (contract_endedDataSet d endEpoch) ?_ egress)
      ((dealings_of_railsTerminated egress).head (.ended storage))
    rw [endEpoch_endedDataSet]
    exact storage
  | toppedUp checked hcdn hcacheMiss =>
    obtain ⟨-, -, hne⟩ := egressRails_of_indexed indexed checked.dataSet_eq checked.cdnRail_eq
      checked.cacheMissRail_eq
    -- what was read of the second rail before the first was changed is still so
    have hr := checked.cacheMiss_eq
    rw [← rail?_of_lockupRaised hcdn hne] at hr
    exact outcome_of_same rfl rfl ((dealings_of_lockupRaised checked.cdn_eq hcdn).trans
      (dealings_of_lockupRaised hr hcacheMiss))
  | settled checked hcdn hcacheMiss =>
    obtain ⟨hcdnRail, hcacheMissRail, hne⟩ := egressRails_of_indexed indexed checked.dataSet_eq
      checked.cdnRail_eq checked.cacheMissRail_eq
    have hr := checked.cacheMiss_eq
    rw [← rail?_of_charged hcdn hne] at hr
    exact outcome_of_same rfl rfl
      ((dealings_of_charged checked.dataSet_eq hcdnRail checked.cdn_eq hcdn).trans
        (dealings_of_charged checked.dataSet_eq hcacheMissRail hr hcacheMiss))
  | owner _ sets => exact outcome_of_same rfl sets.sameParties .refl

/-- A refused call may have raised one of two lockups, or charged one of two amounts. -/
theorem dealings_of_fails (indexed : s.state.Indexed) (h : Fails (perform ctx c) s e s') :
    Dealings s.state s.ledger s'.ledger := by
  by_cases hc : c.isEgressPayment = false
  · rw [unchanged_perform hc (fun id d hd => (indexed.dataSet id d hd).distinct) e s' h]
  cases c with
  | topUpEgress id cdnAmount cacheMissAmount =>
    obtain rfl | ⟨d, cdnRail, cacheMissRail, cdn, cacheMiss, cdnLockup, cacheMissLockup, l,
      hchecked, hcdn, rfl⟩ := refusedTo_topUpEgress e s' (fails_done.mp h)
    · exact .refl
    · exact dealings_of_lockupRaised hchecked.cdn_eq hcdn
  | settleEgress id cdnAmount cacheMissAmount =>
    obtain rfl | ⟨d, cdnRail, cacheMissRail, cdn, cacheMiss, l, hchecked, hcdn, rfl⟩ :=
      refusedTo_settleEgress e s' (fails_done.mp h)
    · exact .refl
    · obtain ⟨hcdnRail, -, -⟩ := egressRails_of_indexed indexed hchecked.dataSet_eq
        hchecked.cdnRail_eq hchecked.cacheMissRail_eq
      exact dealings_of_charged hchecked.dataSet_eq hcdnRail hchecked.cdn_eq hcdn
  | _ => exact absurd rfl hc

theorem outcome_of_call (indexed : s.state.Indexed) (h : s.call ctx c = (answer, s')) :
    Outcome ctx c s s' := by
  cases answer with
  | ok reply => exact outcome_of_succeeds indexed (call_eq_ok_iff.mp h)
  | error e =>
    have hfails := call_eq_error_iff.mp h
    have hstate := (refusedWithin_perform _ _ _ hfails).state
    have hdataSets := congrArg ServiceState.dataSets hstate
    refine outcome_of_same hdataSets ?_ (dealings_of_fails indexed hfails)
    rw [hstate]
    rfl

end Service

end WarmStorage
