import WarmStorage.Proofs.Pricing
import WarmStorage.Proofs.Service.Contracts
import WarmStorage.Proofs.Service.Funding

/-!
The first period of a new data set. What is examined of a payer before a data set is created pays
for its first period at the floor rate. The rails for egress take their lockups from the same
allowance and the same funds in between, and what they leave is still enough.
-/

namespace WarmStorage

theorem Rail.lockup_withRate {r : Rail} {rate lockup : TokenAmount} (hfixed : r.lockupFixed = 0)
    (h : lockup.toNat = rate.toNat * r.lockupPeriod.toNat) : (r.withRate rate).lockup = lockup := by
  have hfits := lockup.isLt
  have hzero : (0 : TokenAmount).toNat = 0 := rfl
  apply BitVec.eq_of_toNat_eq
  unfold Rail.lockup withRate
  dsimp only
  rw [hfixed, UInt256.toNat_clampAdd, UInt256.toNat_clampMul, UInt256.toNat_ofWord, ← h, hzero]
  omega

namespace ServiceM

variable {l l' l'' : Ledger} {terms : RailTerms} {period max : UInt64} {fixed lockup : TokenAmount}
  {rest : Nat} {rail rail' : RailId} {c : Config} {payer payee : Address} {withCdn : Bool}
  {egress : Option RailId × Option RailId}

theorem RailOpened.unique (h : RailOpened l terms period fixed rail l')
    (h' : RailOpened l terms period fixed rail' l'') : l' = l'' := by
  obtain ⟨m, hcreate, hlockup⟩ := h
  obtain ⟨m', hcreate', hlockup'⟩ := h'
  cases hcreate.symm.trans hcreate'
  exact Except.ok.inj (hlockup.symm.trans hlockup')

theorem RailOpened.affords (h : RailOpened l terms period fixed rail l') (hperiod : period ≤ max)
    (afford : l.Affords terms.token terms.payer terms.operator max (fixed.toNat + rest)) :
    l'.Affords terms.token terms.payer terms.operator max rest := by
  obtain ⟨m, hopened, hrest⟩ := afford.open terms hperiod
  rwa [h.unique hopened]

theorem RailOpened.remainingRate (h : RailOpened l terms period fixed rail l') :
    (l'.approval terms.token terms.payer terms.operator).remainingRate =
      (l.approval terms.token terms.payer terms.operator).remainingRate := by
  obtain ⟨m, hcreate, hlockup⟩ := h
  obtain ⟨-, -, hm⟩ := Ledger.createRail_eq_ok_iff.mp hcreate
  obtain ⟨old, hold, -, hchange⟩ := Ledger.modifyLockup_eq_ok_iff.mp hlockup
  rw [Ledger.rail?_of_createRail hcreate, if_pos rfl, Option.some.injEq] at hold
  have hrate : old.rate = 0 := by
    rw [← hold]
  have hfixed : old.lockup.toNat = 0 := by
    rw [Rail.toNat_lockup_of_rate_eq_zero hrate, ← hold]
    rfl
  have hterms : old.toRailTerms = terms := by
    rw [← hold]
  have hsame (token client operator : Address) :
      m.approval token client operator = l.approval token client operator := by
    rw [hm]
    rfl
  have hcounted :=
    (Ledger.recounted_of_changeRail (by rfl) (Ledger.counts_of_idle hrate hfixed) hchange).rate
  have husage : (l'.approval terms.token terms.payer terms.operator).rateUsage =
      (l.approval terms.token terms.payer terms.operator).rateUsage := by
    apply BitVec.eq_of_toNat_eq
    rw [← hsame, ← hterms]
    exact Nat.add_right_cancel hcounted
  rw [Approval.remainingRate, husage, Ledger.approval_of_changeRail hchange, hsame]
  rfl

theorem RailsOpened.remainingRate
    (h : RailsOpened l c (storageTerms c payer payee) withCdn rail egress l') :
    (l'.approval c.token payer c.serviceAddress).remainingRate =
      (l.approval c.token payer c.serviceAddress).remainingRate := by
  obtain ⟨m, hstorage, ⟨-, _, _, m', -, hcacheMiss, hcdn⟩ | ⟨-, -, rfl⟩⟩ := h
  · exact (hcdn.remainingRate.trans hcacheMiss.remainingRate).trans hstorage.remainingRate
  · exact hstorage.remainingRate

theorem RailsOpened.affords {required : TokenAmount}
    (h : RailsOpened l c (storageTerms c payer payee) withCdn rail egress l')
    (hrequired : c.requiredLockup withCdn = .ok required)
    (afford : l.Affords c.token payer c.serviceAddress c.lockupPeriod required.toNat) :
    ∃ lockup, c.pricing.minimumLockup c.lockupPeriod = .ok lockup ∧
      l'.Affords c.token payer c.serviceAddress c.lockupPeriod lockup.toNat := by
  obtain ⟨lockup, hlockup, hsum⟩ := c.toNat_requiredLockup hrequired
  refine ⟨lockup, hlockup, ?_⟩
  obtain ⟨m, hstorage, ⟨rfl, _, _, m', -, hcacheMiss, hcdn⟩ | ⟨rfl, -, rfl⟩⟩ := h
  · rw [if_pos rfl] at hsum
    have hbefore : l.Affords c.token payer c.serviceAddress c.lockupPeriod
        ((0 : TokenAmount).toNat +
          (c.pricing.cacheMissLockup.toNat + (c.pricing.cdnLockup.toNat + lockup.toNat))) := by
      apply afford.mono
      simp
      omega
    apply hcdn.affords UInt64.zero_le
    apply hcacheMiss.affords UInt64.zero_le
    exact hstorage.affords (UInt64.le_refl _) hbefore
  · have hbefore : l.Affords c.token payer c.serviceAddress c.lockupPeriod
        ((0 : TokenAmount).toNat + lockup.toNat) := by
      apply afford.mono
      simp
      omega
    exact hstorage.affords (UInt64.le_refl _) hbefore

end ServiceM

theorem Config.minimumRate_le_of_checkFunding {c : Config} {payer : Address}
    {approval : Approval} {account : Account} {withCdn : Bool}
    (h : c.checkFunding payer approval account withCdn = .ok ()) :
    c.pricing.minimumRate ≤ approval.remainingRate := by
  unfold checkFunding at h
  rw [Pricing.storageRate_zero] at h
  obtain ⟨required, -, h⟩ := Ledger.bind_eq_ok_iff.mp h
  simp only [Ledger.guard_eq_ok_iff] at h
  exact BitVec.not_lt.mp h.2.1

namespace Service

open ServiceM

variable {s s' : Service} {ctx ctx' : CallContext} {id : DataSetId} {provider : Address}
  {request : CreationRequest} {reply : Reply} {next challenge : Epoch} {leafCount bytes : UInt64}

theorem exists_modifyPayment_of_railsOpened {l l' : Ledger} {c : Config} {payer payee : Address}
    {withCdn : Bool} {rail : RailId} {egress : Option RailId × Option RailId}
    (funded : c.checkFunding payer (l.approval c.token payer c.serviceAddress)
      (l.account c.token payer) withCdn = .ok ())
    (h : RailsOpened l c (storageTerms c payer payee) withCdn rail egress l') :
    ∃ l'' lockup r, l'.modifyPayment rail c.pricing.minimumRate 0 = .ok l'' ∧
      c.pricing.minimumLockup c.lockupPeriod = .ok lockup ∧ l''.rail? rail = some r ∧
      r.rate = c.pricing.minimumRate ∧ r.lockup = lockup := by
  obtain ⟨required, hrequired, afford⟩ := c.affords_of_checkFunding funded
  obtain ⟨lockup, hlockup, afford'⟩ := h.affords hrequired afford
  have hrate := c.minimumRate_le_of_checkFunding funded
  rw [← h.remainingRate, BitVec.le_def] at hrate
  let idle : Rail := { storageTerms c payer payee with lockupPeriod := c.lockupPeriod }
  have hrail : l'.rail? rail = some idle := h.rail?_storage
  have hstreams : (idle.withRate c.pricing.minimumRate).lockup = lockup :=
    Rail.lockup_withRate rfl (Pricing.minimumLockup_eq_ok_iff.mp hlockup)
  have hidle : idle.lockup.toNat = 0 := Rail.toNat_lockup_of_rate_eq_zero rfl
  have hadmitted : ∃ l'', l'.modifyPayment rail c.pricing.minimumRate 0 = .ok l'' := by
    rw [Ledger.exists_modifyPayment_of_rate_iff hrail rfl, hstreams, hidle]
    exact ⟨Nat.le_trans (Nat.sub_le _ _) hrate, afford'⟩
  obtain ⟨l'', hl''⟩ := hadmitted
  obtain ⟨r, hr, -, hrails⟩ := Ledger.rail?_of_modifyPayment hl''
  rw [hrail, Option.some.injEq] at hr
  subst hr
  refine ⟨l'', lockup, idle.withRate c.pricing.minimumRate, hl'', hlockup, ?_, rfl, hstreams⟩
  rw [hrails, if_pos rfl, Rail.withRate_eq]

theorem exists_activation {d : DataSet} {rate : TokenAmount} {l : Ledger}
    (hd : s.state.dataSet? id = some d) (live : d.endEpoch = 0)
    (hp : s.state.proving? id = some { params := s.state.config.proving })
    (hcaller : ctx.caller = s.state.config.verifier) (epoch_ne : ctx.epoch ≠ 0)
    (hnext : next.toNat = ctx.epoch.toNat + s.state.config.proving.periodLength.toNat)
    (hwindow : (ChallengeWindow.endingAt next s.state.config.proving.windowSize).contains
      challenge = true)
    (hbytes : Word.exactMul? leafCount bytesPerLeaf = some bytes)
    (hrate : s.state.config.pricing.storageRate bytes = .ok rate)
    (hl : s.ledger.modifyPayment d.storageRail rate 0 = .ok l) :
    ∃ s', s.call ctx (.nextProvingPeriod id challenge leafCount) = (.ok .done, s') ∧
      s'.state.dataSet? id = some d ∧ s'.ledger = l := by
  have hunended : d.isTerminated = false := by
    rw [Deal.isTerminated, live]
    rfl
  have hpast : d.isPastEnd ctx.epoch = false := by
    rw [Deal.isPastEnd, hunended, Bool.false_and]
  have hadvance := ProvingState.checkAdvance_eq_ok_iff.mpr
    (.activated (s := { params := s.state.config.proving }) rfl epoch_ne hnext hwindow)
  have hupdated : RateUpdated s d leafCount (some rate) l :=
    .inr ⟨hunended, rate, ⟨bytes, hbytes, hrate⟩, rfl, hl⟩
  refine ⟨_, call_eq_ok_iff.mpr (succeeds_done.mpr ⟨rfl, succeeds_nextProvingPeriod.mpr
    ⟨hcaller, d, _, _, _, l, hd, hpast, hp, hadvance, hupdated, rfl⟩⟩), hd, rfl⟩

/--
Once a data set was created, the verifier's first advance of it succeeds if its storage costs the
floor rate, and the challenge is scheduled in the window of the first deadline. The storage rail
then streams the floor rate, and holds the lockup that the funds of the payer were examined for.
-/
theorem first_period_funded
    (created : s.call ctx (.dataSetCreated id provider request) = (.ok reply, s'))
    (hcaller : ctx'.caller = s'.state.config.verifier) (epoch_ne : ctx'.epoch ≠ 0)
    (hnext : next.toNat = ctx'.epoch.toNat + s'.state.config.proving.periodLength.toNat)
    (hwindow : (ChallengeWindow.endingAt next s'.state.config.proving.windowSize).contains
      challenge = true)
    (hbytes : Word.exactMul? leafCount bytesPerLeaf = some bytes)
    (hrate : s'.state.config.pricing.storageRate bytes =
      .ok s'.state.config.pricing.minimumRate) :
    ∃ s'' d r lockup,
      s'.call ctx' (.nextProvingPeriod id challenge leafCount) = (.ok .done, s'') ∧
      s''.state.dataSet? id = some d ∧ s''.ledger.rail? d.storageRail = some r ∧
      r.rate = s'.state.config.pricing.minimumRate ∧
      s.state.config.pricing.minimumLockup s.state.config.lockupPeriod = .ok lockup ∧
      r.lockup = lockup := by
  obtain ⟨-, h⟩ := succeeds_done.mp (call_eq_ok_iff.mp created)
  obtain ⟨providerId, payee, entries, clientId, storageRail, egress, l, checked, rails, rfl⟩ :=
    succeeds_dataSetCreated.mp h
  obtain ⟨l', lockup, r, hl', hlockup, hr, hstreams, hholds⟩ :=
    exists_modifyPayment_of_railsOpened checked.funded rails
  -- the data set as it was created, whose first period is now opened
  let d := createdDataSet s.state.config id provider request providerId payee entries clientId
    storageRail egress
  have hd : (s.state.registered d).dataSet? id = some d := by
    rw [ServiceState.dataSet?_registered]
    exact if_pos rfl
  have hp : (s.state.registered d).proving? id = some { params := s.state.config.proving } := by
    rw [ServiceState.proving?_registered]
    exact if_pos rfl
  obtain ⟨s'', hcall, hd', rfl⟩ :=
    exists_activation hd rfl hp hcaller epoch_ne hnext hwindow hbytes hrate hl'
  exact ⟨s'', d, r, lockup, hcall, hd', hr, hstreams, hlockup, hholds⟩

def pricedConfig : Config :=
  { cdnConfig with
    pricing := { cdnConfig.pricing with storagePrice := 172800, minimumPrice := 172800 } }

def emptyPricedService : Service :=
  ⟨.ofConfig pricedConfig, .empty, (ProviderRegistry.empty.register 7 8).2, .empty, []⟩

/-- The payer has, and allows, exactly what the first period and the egress rails take. -/
def pricedPreparation : List Move :=
  [.operate (.deposit 5 cdnPayer 172900),
    .operate (.approve 5 cdnPayer 1 2 172900 epochsPerMonth),
    .call ⟨2, 0⟩ (.approveProvider 1)]

def pricedService : Service :=
  emptyPricedService.run pricedPreparation

theorem creationChecked_pricedService :
    CreationChecked ⟨3, 10⟩ 1 7 (cdnRequest cdnPayer) pricedService 1 8 [] 0 where
  caller := rfl
  payer_ne := by decide
  serviceProvider_ne := by decide
  unused := Option.isNone_iff_eq_none.mp (by decide +kernel)
  known := by decide +kernel
  active := by decide +kernel
  approved := by decide +kernel
  payee_eq := by decide +kernel
  entries_eq := rfl
  entries_valid := by decide +kernel
  chosen := ⟨by decide +kernel, by decide +kernel⟩
  signed := ⟨cdnPayer, verify_cdnMessage⟩
  funded := by decide +kernel

theorem first_period_funded_pricedService :
    pricedConfig.validate = .ok () ∧ ∃ s' s'' d r,
      pricedService.call ⟨3, 10⟩ (.dataSetCreated 1 7 (cdnRequest cdnPayer)) = (.ok .done, s') ∧
      s'.call ⟨3, 10⟩ (.nextProvingPeriod 1 18 3) = (.ok .done, s'') ∧
      s''.state.dataSet? 1 = some d ∧ s''.ledger.rail? d.storageRail = some r ∧
      r.rate = 2 ∧ r.lockup = 172800 := by
  have checked := creationChecked_pricedService
  have opened : ∃ rail egress l, RailsOpened pricedService.ledger pricedConfig
      (storageTerms pricedConfig cdnPayer 8) true rail egress l :=
    exists_railsOpened checked.funded
  obtain ⟨storageRail, egress, l, rails⟩ := opened
  have created : ∃ s', pricedService.call ⟨3, 10⟩ (.dataSetCreated 1 7 (cdnRequest cdnPayer)) =
      (.ok .done, s') ∧ s'.state.config = pricedConfig :=
    ⟨_, call_eq_ok_iff.mpr (succeeds_done.mpr ⟨rfl, succeeds_dataSetCreated.mpr
      ⟨1, 8, [], 0, storageRail, egress, l, checked, rails, rfl⟩⟩), rfl⟩
  obtain ⟨s', hcreated, hconfig⟩ := created
  let ctx : CallContext := ⟨3, 10⟩
  have epoch_ne : ctx.epoch ≠ 0 := by decide
  have hcaller : ctx.caller = s'.state.config.verifier := by
    rw [hconfig]
    rfl
  have hnext : (20 : Epoch).toNat = ctx.epoch.toNat +
      s'.state.config.proving.periodLength.toNat := by
    rw [hconfig]
    rfl
  have hwindow : (ChallengeWindow.endingAt 20 s'.state.config.proving.windowSize).contains 18 =
      true := by
    rw [hconfig]
    decide
  have hbytes : Word.exactMul? 3 bytesPerLeaf = some 96 := rfl
  have hrate : s'.state.config.pricing.storageRate 96 =
      .ok s'.state.config.pricing.minimumRate := by
    rw [hconfig]
    decide +kernel
  obtain ⟨s'', d, r, lockup, hcall, hd, hr, hstreams, hlockup, hholds⟩ :=
    first_period_funded hcreated hcaller epoch_ne hnext hwindow hbytes hrate
  have hexpected : pricedConfig.pricing.minimumLockup pricedConfig.lockupPeriod = .ok 172800 := by
    decide +kernel
  refine ⟨by decide +kernel, s', s'', d, r, hcreated, hcall, hd, hr, ?_, ?_⟩
  · rw [hstreams, hconfig]
    decide +kernel
  · rw [hholds]
    exact Except.ok.inj (hlockup.symm.trans hexpected)

end Service

end WarmStorage
