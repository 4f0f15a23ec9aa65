import WarmStorage.Proofs.Ledger.Conservation
import WarmStorage.Proofs.Service.Contracts

/-!
Money in the runs of a service. As long as nobody else opens rails or changes live ones, egress
rails hold no streaming payments, so what is paid from them was held for it. Nothing else that the
service does to the ledger pays at all. Hence no money is made or lost, and every charge is covered
by the funds of the payer.
-/

namespace WarmStorage

/-- Operations that leave it to the service to open rails and to change live ones. -/
def Ledger.Operation.leavesRails : Ledger.Operation → Bool
  | .deposit .. => true
  | .approve .. => true
  | .terminate .. => true
  | _ => false

namespace Move

def leavesRails : Move → Bool
  | .operate op => op.leavesRails
  | _ => true

def deposited (token : Address) : Move → Nat
  | .operate op => op.deposited token
  | _ => 0

def deposits (moves : List Move) (token : Address) : Nat :=
  (moves.map (·.deposited token)).sum

end Move

namespace Service

open ServiceM Ledger

variable {s s' : Service} {l l' : Ledger} {st : ServiceState} {ctx : CallContext} {c : Call}
  {id : DataSetId} {d : DataSet} {rail : RailId} {r : Rail} {m : Move} {moves : List Move}
  {amount cdnAmount cacheMissAmount : TokenAmount} {answer : Except ServiceError Reply}
  {deposited : Address → Nat}

def EgressUnstreamed (st : ServiceState) (l : Ledger) : Prop :=
  ∀ id d rail, st.dataSet? id = some d → rail ∈ d.egressRails →
    ∃ r, l.rail? rail = some r ∧ r.lockupPeriod = 0

theorem EgressUnstreamed.of_keepsPeriods (h : EgressUnstreamed st l) (keeps : l.KeepsPeriods l') :
    EgressUnstreamed st l' := by
  intro id d rail hd hrail
  obtain ⟨r, hr, hperiod⟩ := h id d rail hd hrail
  obtain ⟨r', hr', hsame⟩ := keeps rail r hr
  exact ⟨r', hr', hsame.trans hperiod⟩

theorem Dealing.reaches (h : Dealing st l l') : l.Reaches l' := by
  cases h with
  | opened h => exact h.reaches
  | repriced h => exact reaches_of_modifyPayment h
  | ended h => exact reaches_of_terminate h
  | raised _ h => exact reaches_of_modifyLockup h
  | charged _ _ _ h => exact reaches_of_modifyPayment h

theorem Dealing.spends (h : Dealing st l l') (unstreamed : EgressUnstreamed st l) :
    Relation.ReflTransGen Spends l l' := by
  cases h with
  | opened h =>
    obtain ⟨m, hcreate, hlockup⟩ := h
    exact (Relation.ReflTransGen.single (spends_of_createRail hcreate)).tail
      (spends_of_modifyLockup hlockup)
  | repriced h => exact .single (spends_of_reprice h)
  | ended h => exact .single (spends_of_terminate h)
  | raised _ h => exact .single (spends_of_modifyLockup h)
  | charged hd hrail hr h =>
    obtain ⟨r, hr', hperiod⟩ := unstreamed _ _ _ hd hrail
    rw [hr, Option.some.injEq] at hr'
    subst hr'
    exact .single (spends_of_charge hr hperiod h)

theorem Dealing.keepsPeriods (h : Dealing st l l') (numbered : l.Numbered) :
    l.KeepsPeriods l' := by
  cases h with
  | opened h =>
    -- only the new rail is given a period, and no rail had its number
    apply Keeps.open _ h.rail?
    rw [h.numbers.1]
    exact numbered.rail?_next
  | repriced h => exact keepsPeriods_of_modifyPayment h
  | ended h => exact keepsPeriods_of_terminate h
  | raised hr h => exact keepsPeriods_of_modifyLockup hr h
  | charged _ _ _ h => exact keepsPeriods_of_modifyPayment h

theorem reaches_of_dealings (h : Dealings st l l') : l.Reaches l' := by
  induction h with
  | refl => exact .refl
  | tail _ hstep ih => exact ih.trans hstep.reaches

theorem keepsPeriods_of_dealings (h : Dealings st l l') (reached : Ledger.empty.Reaches l)
    (room : l'.rails.size < UInt64.size) : l.KeepsPeriods l' := by
  induction h with
  | refl => exact .refl
  | tail h hstep ih =>
    have room' := Nat.lt_of_le_of_lt hstep.reaches.size_le room
    have numbered := (reached.trans (reaches_of_dealings h)).numbered room'
    exact (ih room').trans (hstep.keepsPeriods numbered)

theorem spends_of_dealings (h : Dealings st l l') (reached : Ledger.empty.Reaches l)
    (room : l'.rails.size < UInt64.size) (unstreamed : EgressUnstreamed st l) :
    Relation.ReflTransGen Spends l l' := by
  induction h with
  | refl => exact .refl
  | tail h hstep ih =>
    have room' := Nat.lt_of_le_of_lt hstep.reaches.size_le room
    have keeps := keepsPeriods_of_dealings h reached room'
    exact (ih room').trans (hstep.spends (unstreamed.of_keepsPeriods keeps))

structure Funded (s : Service) (deposited : Address → Nat) : Prop where
  backed : s.ledger.Backed
  unstreamed : EgressUnstreamed s.state s.ledger
  total : ∀ token, deposited token < UInt256.size → s.ledger.total token = deposited token

theorem egressUnstreamed_of_call (hs : Reachable s) (hcall : s.call ctx c = (answer, s'))
    (room : s'.ledger.rails.size < UInt64.size) (h : EgressUnstreamed s.state s.ledger) :
    EgressUnstreamed s'.state s'.ledger := by
  obtain ⟨-, dealings, dataSets⟩ := outcome_of_call hs.indexed hcall
  have hold := h.of_keepsPeriods (keepsPeriods_of_dealings dealings hs.ledger room)
  intro id d rail hd hrail
  obtain ⟨d', hd', contract⟩ | ⟨_, -, hrails⟩ := (dataSets id d hd).contract_or_created
  · rw [DataSet.egressRails_of_contract contract] at hrail
    exact hold id d' rail hd' hrail
  · obtain ⟨r, hr, -, -, hperiod⟩ := hrails.rail?_egress hrail
    exact ⟨r, hr, hperiod⟩

theorem Funded.call (h : s.Funded deposited) (hs : Reachable s)
    (hcall : s.call ctx c = (answer, s')) (room : s'.ledger.rails.size < UInt64.size) :
    s'.Funded deposited := by
  have spends := spends_of_dealings (outcome_of_call hs.indexed hcall).dealings hs.ledger room
    h.unstreamed
  have unstreamed := egressUnstreamed_of_call hs hcall room h.unstreamed
  refine ⟨h.backed.spends hs.ledger spends, unstreamed, ?_⟩
  intro token fits
  have htotal := h.total token fits
  rw [← htotal] at fits ⊢
  exact total_of_spends h.backed hs.ledger fits spends

theorem keepsPeriods_of_leavesRails {op : Operation} {a : Answer} (hop : op.leavesRails = true)
    (h : l.perform op = .ok (a, l')) : l.KeepsPeriods l' := by
  cases Ledger.performed_of_perform h with
  | deposited => exact .of_rails rfl
  | approved => exact .of_rails rfl
  | ended hterminate => exact keepsPeriods_of_terminate hterminate
  | opened => contradiction
  | held => contradiction
  | paid => contradiction

theorem Funded.operate {op : Operation} (h : s.Funded deposited) (hs : Reachable s)
    (hop : op.leavesRails = true) :
    Funded { s with ledger := (s.ledger.operate op).2 }
      fun token => deposited token + op.deposited token := by
  unfold Ledger.operate
  cases hperform : s.ledger.perform op with
  | ok r =>
    obtain ⟨a, l⟩ := r
    have hpayment : ∀ id rate oneTime, op ≠ .modifyPayment id rate oneTime := by
      rintro id rate oneTime rfl
      contradiction
    constructor
    · exact h.backed.perform hperform hpayment
    · exact h.unstreamed.of_keepsPeriods (keepsPeriods_of_leavesRails hop hperform)
    · intro token fits
      have htotal := h.total token (Nat.lt_of_le_of_lt (Nat.le_add_right _ _) fits)
      rw [← htotal] at fits ⊢
      exact total_of_perform token h.backed hs.ledger.covered hperform fits
  | error e =>
    -- deposits are never refused
    have hdeposited : ∀ token, op.deposited token = 0 := by
      intro token
      cases op with
      | deposit => contradiction
      | _ => rfl
    simp only [hdeposited, Nat.add_zero]
    exact h

theorem Funded.of_same (h : s.Funded deposited) (hstate : s'.state = s.state)
    (hledger : s'.ledger = s.ledger) : s'.Funded deposited := by
  constructor
  · rw [hledger]
    exact h.backed
  · rw [hstate, hledger]
    exact h.unstreamed
  · rw [hledger]
    exact h.total

theorem Funded.move (h : s.Funded deposited) (hs : Reachable s) (hm : m.leavesRails = true)
    (room : (s.move m).ledger.rails.size < UInt64.size) :
    (s.move m).Funded fun token => deposited token + m.deposited token := by
  cases m with
  | call ctx c => exact h.call hs rfl room
  | operate op => exact h.operate hs hm
  | outside providers sessionKeys => exact h.of_same rfl rfl
  | takeEvents => exact h.of_same rfl rfl
  | restart sessionKeys =>
    obtain heq | heq := move_restart s sessionKeys
    · rw [heq]
      exact h
    · rw [heq]
      exact h.of_same rfl rfl

theorem Funded.run (h : s.Funded deposited) (hs : Reachable s)
    (hmoves : ∀ m ∈ moves, m.leavesRails = true)
    (room : (s.run moves).ledger.rails.size < UInt64.size) :
    (s.run moves).Funded fun token => deposited token + Move.deposits moves token := by
  induction moves generalizing s deposited with
  | nil => exact h
  | cons m moves ih =>
    rw [List.forall_mem_cons] at hmoves
    have room' := Nat.lt_of_le_of_lt (reaches_run (s.move m) moves).size_le room
    have hrest := ih (h.move hs hmoves.1 room') hs.move hmoves.2 room
    simp only [Move.deposits, List.map_cons, List.sum_cons, ← Nat.add_assoc]
    exact hrest

theorem funded_new {config : Config} {providers : ProviderRegistry} {sessionKeys : SessionKeys}
    (h : Service.new config .empty providers sessionKeys = .ok s) : s.Funded fun _ => 0 := by
  have hd := dataSet?_of_new h
  obtain ⟨-, rfl⟩ := new_eq_ok_iff.mp h
  refine ⟨backed_empty, ?_, fun _ _ => total_empty⟩
  intro id d rail hsome
  rw [hd] at hsome
  contradiction

theorem backed_of_charged (h : Charged l rail r.rate amount l') (hr : l.rail? rail = some r)
    (unstreamed : r.lockupPeriod = 0) (reached : Ledger.empty.Reaches l) (backed : l.Backed) :
    l'.Backed ∧ Ledger.empty.Reaches l' ∧
      (l'.account r.token r.payer).funds.toNat + amount.toNat =
        (l.account r.token r.payer).funds.toNat := by
  obtain ⟨rfl, rfl⟩ | ⟨-, h⟩ := h
  · exact ⟨backed, reached, rfl⟩
  · have hspends := spends_of_charge hr unstreamed h
    exact ⟨hspends.backed backed reached.covered, reached.trans hspends.reaches,
      funds_of_modifyPayment backed reached.covered hr h⟩

def egressCharges (cdnAmount cacheMissAmount : TokenAmount) : Except ServiceError Reply → List Nat
  | .ok _ => [cdnAmount.toNat + cacheMissAmount.toNat]
  | .error _ => [0, cdnAmount.toNat]

theorem Funded.egressRail (h : s.Funded deposited) (hs : Reachable s)
    (room : s.ledger.rails.size < UInt64.size) (hd : s.state.dataSet? id = some d)
    (hrail : rail ∈ d.egressRails) (hr : s.ledger.rail? rail = some r) :
    r.token = s.state.config.token ∧ r.payer = d.payer ∧ r.lockupPeriod = 0 := by
  obtain ⟨q, hq, htoken, hpayer⟩ := (hs.contracted room hd).egress rail hrail
  obtain ⟨q', hq', hperiod⟩ := h.unstreamed id d rail hd hrail
  rw [hr, Option.some.injEq] at hq hq'
  subst hq hq'
  exact ⟨htoken, hpayer, hperiod⟩

theorem Funded.settleEgress (h : s.Funded deposited) (hs : Reachable s)
    (room : s.ledger.rails.size < UInt64.size) (hd : s.state.dataSet? id = some d)
    (hcall : s.call ctx (.settleEgress id cdnAmount cacheMissAmount) = (answer, s')) :
    ∃ charged ∈ egressCharges cdnAmount cacheMissAmount answer,
      (s'.ledger.account s.state.config.token d.payer).funds.toNat + charged =
        (s.ledger.account s.state.config.token d.payer).funds.toNat := by
  cases answer with
  | ok reply =>
    obtain ⟨-, hcall⟩ := succeeds_done.mp (call_eq_ok_iff.mp hcall)
    obtain ⟨d', cdnRail, cacheMissRail, cdn, cacheMiss, l, l', hchecked, hcdn, hcacheMiss, rfl⟩ :=
      succeeds_settleEgress.mp hcall
    have hd' := hchecked.dataSet_eq
    rw [hd, Option.some.injEq] at hd'
    subst hd'
    obtain ⟨hcdnRail, hcacheMissRail, hne⟩ := egressRails_of_indexed hs.indexed hd
      hchecked.cdnRail_eq hchecked.cacheMissRail_eq
    obtain ⟨htoken, hpayer, hperiod⟩ := h.egressRail hs room hd hcdnRail hchecked.cdn_eq
    obtain ⟨htoken', hpayer', hperiod'⟩ :=
      h.egressRail hs room hd hcacheMissRail hchecked.cacheMiss_eq
    obtain ⟨hbacked, hreached, hfunds⟩ :=
      backed_of_charged hcdn hchecked.cdn_eq hperiod hs.ledger h.backed
    -- the first charge leaves the second rail alone
    have hr := hchecked.cacheMiss_eq
    rw [← rail?_of_charged hcdn hne] at hr
    obtain ⟨-, -, hfunds'⟩ := backed_of_charged hcacheMiss hr hperiod' hreached hbacked
    rw [htoken, hpayer] at hfunds
    rw [htoken', hpayer'] at hfunds'
    refine ⟨_, List.mem_singleton.mpr rfl, ?_⟩
    dsimp only
    omega
  | error e =>
    obtain rfl | ⟨d', cdnRail, cacheMissRail, cdn, cacheMiss, l, hchecked, hcdn, rfl⟩ :=
      refusedTo_settleEgress e s' (fails_done.mp (call_eq_error_iff.mp hcall))
    · exact ⟨0, by simp [egressCharges], rfl⟩
    · have hd' := hchecked.dataSet_eq
      rw [hd, Option.some.injEq] at hd'
      subst hd'
      obtain ⟨hcdnRail, -, -⟩ := egressRails_of_indexed hs.indexed hd hchecked.cdnRail_eq
        hchecked.cacheMissRail_eq
      obtain ⟨htoken, hpayer, hperiod⟩ := h.egressRail hs room hd hcdnRail hchecked.cdn_eq
      obtain ⟨-, -, hfunds⟩ := backed_of_charged hcdn hchecked.cdn_eq hperiod hs.ledger h.backed
      rw [htoken, hpayer] at hfunds
      exact ⟨_, by simp [egressCharges], hfunds⟩

/--
In every run in which only the service opens rails and changes live ones, nothing is locked that is
not there, and the money of a token is what was deposited, unless that is more than an amount can
be. Every charge for egress, also one before a refusal, is taken from the funds of the payer to the
last unit. The ledger must hold fewer rails than there are numbers for them, as any does.
-/
theorem money_conserved {config : Config} {providers : ProviderRegistry}
    {sessionKeys : SessionKeys} (h : Service.new config .empty providers sessionKeys = .ok s)
    (moves : List Move) (hmoves : ∀ m ∈ moves, m.leavesRails = true)
    (room : (s.run moves).ledger.rails.size < UInt64.size) :
    (∀ token owner, ((s.run moves).ledger.account token owner).locked ≤
      ((s.run moves).ledger.account token owner).funds) ∧
    (∀ token, Move.deposits moves token < UInt256.size →
      (s.run moves).ledger.totalFunds token + (s.run moves).ledger.totalPayouts token =
        Move.deposits moves token) ∧
    ∀ ctx id d cdnAmount cacheMissAmount answer s',
      (s.run moves).state.dataSet? id = some d →
      (s.run moves).call ctx (.settleEgress id cdnAmount cacheMissAmount) = (answer, s') →
      ∃ charged ∈ egressCharges cdnAmount cacheMissAmount answer,
        (s'.ledger.account (s.run moves).state.config.token d.payer).funds.toNat + charged =
          ((s.run moves).ledger.account (s.run moves).state.config.token d.payer).funds.toNat := by
  have hnew : Reachable s := @Reachable.new _ [] _ _ _ h
  have hfunded := (funded_new h).run hnew hmoves room
  simp only [Nat.zero_add] at hfunded
  refine ⟨hfunded.backed, hfunded.total, ?_⟩
  intro ctx id d cdnAmount cacheMissAmount answer s' hd hcall
  exact hfunded.settleEgress hnew.run room hd hcall

/-- Somebody ends the cache-miss rail, so the second of two charges is refused after the first. -/
def halfCharged : List Move :=
  cdnCreation ++ [.operate (.terminate 2 15), .call ⟨6, 20⟩ (.settleEgress 1 20 10)]

theorem money_conserved_halfCharged :
    ((emptyCdnService.run halfCharged).ledger.account 5 cdnPayer) = { funds := 980, locked := 80 } ∧
    ((emptyCdnService.run halfCharged).ledger.account 5 cdnPayer).locked ≤
      ((emptyCdnService.run halfCharged).ledger.account 5 cdnPayer).funds ∧
    (emptyCdnService.run halfCharged).ledger.totalFunds 5 +
      (emptyCdnService.run halfCharged).ledger.totalPayouts 5 = 1000 ∧
    ∃ s', (emptyCdnService.run halfCharged).call ⟨6, 20⟩ (.settleEgress 1 50 0) =
        (.ok .done, s') ∧
      (s'.ledger.account 5 cdnPayer).funds.toNat + 50 = 980 := by
  have hrun : emptyCdnService.run halfCharged = cdnService.run
      [.operate (.terminate 2 15), .call ⟨6, 20⟩ (.settleEgress 1 20 10)] := by
    rw [halfCharged, run_append, run_cdnCreation]
  obtain ⟨hbacked, htotal, hcharged⟩ := money_conserved new_emptyCdnService halfCharged
    (by decide) (by rw [hrun]; decide +kernel)
  have haccount : ((emptyCdnService.run halfCharged).ledger.account 5 cdnPayer) =
      { funds := 980, locked := 80 } := by
    rw [hrun]
    decide +kernel
  refine ⟨haccount, hbacked 5 cdnPayer, ?_, ?_⟩
  · exact htotal 5 (by decide)
  · have hanswer : ((emptyCdnService.run halfCharged).call ⟨6, 20⟩ (.settleEgress 1 50 0)).1 =
        .ok .done := by
      rw [hrun]
      decide +kernel
    have hpayer : ((emptyCdnService.run halfCharged).state.dataSet? 1).map (·.payer) =
        some cdnPayer := by
      rw [hrun]
      decide +kernel
    have htoken : (emptyCdnService.run halfCharged).state.config.token = 5 := by
      rw [hrun]
      decide +kernel
    obtain ⟨d, hd, hpayer⟩ := Option.map_eq_some_iff.mp hpayer
    have hcall := call_eq_of_answer hanswer
    obtain ⟨charged, hmem, hfunds⟩ := hcharged _ _ _ _ _ _ _ hd hcall
    obtain rfl := List.mem_singleton.mp hmem
    have hsum : (50 : TokenAmount).toNat + (0 : TokenAmount).toNat = 50 := by decide
    rw [hpayer, htoken, haccount, hsum] at hfunds
    exact ⟨_, hcall, hfunds.trans (by decide)⟩

end Service

end WarmStorage
