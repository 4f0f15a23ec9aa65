import WarmStorage.Proofs.Service.Failure

/-!
Arbitration, which changes nothing, and the calls that end a data set or move it to another
provider.
-/

namespace WarmStorage

def ServiceState.withoutDataSet (s : ServiceState) (id : DataSetId) (d : DataSet) : ServiceState :=
  { s with
    dataSets := s.dataSets.erase id
    proving := s.proving.erase id
    railOwners := d.railIds.foldl (fun m rail => m.erase rail) s.railOwners
    payerDataSets := s.payerDataSets.alter d.payer fun ids? =>
      (ids?.map (·.filter (· != id))).filter (!·.isEmpty) }

namespace ServiceM

variable {ctx : CallContext} {id : DataSetId} {s s' : Service} {u : Unit} {leafCount : UInt64}
  {old new : Address} {rail : RailId} {proposed : TokenAmount} {after upTo endEpoch : Epoch}
  {o : SettlementOutcome} {e : ServiceError} {R : Service → Service → Prop} [Std.Refl R]
  [IsTrans Service R]

theorem succeeds_arbitrate : Succeeds (arbitrate ctx rail proposed after upTo) s o s' ↔
    ctx.caller = s.state.config.payments ∧
      s.state.arbitrate rail proposed after upTo ctx.epoch = .ok o ∧ s' = s := by
  simp [arbitrate, and_assoc]

theorem fails_arbitrate : Fails (arbitrate ctx rail proposed after upTo) s e s' ↔
    s' = s ∧ (ctx.caller ≠ s.state.config.payments ∧ e = .notPayments ctx.caller ∨
      ctx.caller = s.state.config.payments ∧
        s.state.arbitrate rail proposed after upTo ctx.epoch = .error e) := by
  rw [arbitrate, fails_bind, fails_requirePayments]
  constructor
  · rintro (⟨hcaller, rfl, rfl⟩ | ⟨_, t, h, hfails⟩)
    · exact ⟨rfl, .inl ⟨hcaller, rfl⟩⟩
    · obtain ⟨hcaller, rfl⟩ := succeeds_requirePayments.mp h
      obtain ⟨e, he, rfl, rfl⟩ := fails_ofExcept.mp (fails_get_bind.mp hfails)
      exact ⟨rfl, .inr ⟨hcaller, he⟩⟩
  · rintro ⟨rfl, ⟨hcaller, rfl⟩ | ⟨hcaller, he⟩⟩
    · exact .inl ⟨hcaller, rfl, rfl⟩
    · refine .inr ⟨(), s', succeeds_requirePayments.mpr ⟨hcaller, rfl⟩, ?_⟩
      exact fails_get_bind.mpr (fails_ofExcept.mpr ⟨e, he, rfl, rfl⟩)

theorem within_arbitrate : Within R (arbitrate ctx rail proposed after upTo) :=
  within_requirePayments.bind fun _ => within_state.bind fun _ => within_ofExcept

theorem succeeds_dataSetDeleted : Succeeds (dataSetDeleted ctx id leafCount) s u s' ↔
    ctx.caller = s.state.config.verifier ∧ ∃ d, s.state.dataSet? id = some d ∧
      d.isPastEnd ctx.epoch = true ∧
      s' = { s with
        state := s.state.withoutDataSet id d
        events := s.events ++ [.dataSetDeleted id leafCount] } := by
  simp [dataSetDeleted, and_assoc, ServiceState.withoutDataSet]

theorem refusedWithin_dataSetDeleted : RefusedWithin R (dataSetDeleted ctx id leafCount) := by
  refine within_requireVerifier.bind_refused fun _ => within_dataSet.bind_refused fun d => ?_
  apply RefusedWithin.guard
  exact (total_modifyState.bind fun _ => total_emit).refusedWithin

theorem succeeds_providerChanged : Succeeds (providerChanged ctx id old new) s u s' ↔
    ctx.caller = s.state.config.verifier ∧ ∃ d, s.state.dataSet? id = some d ∧
      s.state.config.versioning.providerChange ≠ .disabled ∧ d.serviceProvider = old ∧ new ≠ 0 ∧
      ∃ provider, s.providers.id? new = some provider ∧ s.providers.isActive provider = true ∧
        s.state.isApproved provider = true ∧
        s' = { s with
          state := { s.state with
            dataSets := s.state.dataSets.insert id
              { d with serviceProvider := new, providerId := provider } }
          events := s.events ++ [.providerChanged id old new provider] } := by
  simp [providerChanged, and_assoc]

theorem refusedWithin_providerChanged : RefusedWithin R (providerChanged ctx id old new) := by
  refine within_requireVerifier.bind_refused fun _ => within_dataSet.bind_refused fun d =>
    within_config.bind_refused fun c => ?_
  apply RefusedWithin.guard
  apply RefusedWithin.guard
  apply RefusedWithin.guard
  exact within_approvedProvider.bind_refused fun _ =>
    (total_modifyState.bind fun _ => total_emit).refusedWithin

theorem succeeds_railTerminated : Succeeds (railTerminated ctx rail endEpoch) s u s' ↔
    ctx.caller = s.state.config.payments ∧ ∃ id d, s.state.dataSetOfRail? rail = some id ∧
      s.state.dataSet? id = some d ∧
      (rail = d.storageRail ∧ d.isTerminated = false ∧
        s' = { s with
          state := { s.state with
            dataSets := s.state.dataSets.insert id { d with endEpoch := endEpoch } }
          events := s.events ++ [.storagePaymentTerminated id endEpoch rail] } ∨
        ¬ (rail = d.storageRail ∧ d.isTerminated = false) ∧ s' = s) := by
  simp only [railTerminated, succeeds_bind, succeeds_requirePayments, succeeds_state, and_assoc,
    exists_and_left, exists_eq_left, exists_const]
  cases s.state.dataSetOfRail? rail with
  | none => simp
  | some id => simp [and_assoc]

theorem refusedWithin_railTerminated : RefusedWithin R (railTerminated ctx rail endEpoch) := by
  refine within_requirePayments.bind_refused fun _ => within_state.bind_refused fun t => ?_
  cases t.dataSetOfRail? rail with
  | none => exact within_throw.refused
  | some id =>
    refine within_dataSet.bind_refused fun d => ?_
    exact RefusedWithin.ite (total_modifyState.bind fun _ => total_emit).refusedWithin
      total_pure.refusedWithin

def RailsTerminated (epoch : Epoch) : List RailId → Ledger → Ledger → Prop
  | [], l, l' => l' = l
  | rail :: rails, l, l' =>
    ∃ endEpoch m, l.terminate rail epoch = .ok (endEpoch, m) ∧ RailsTerminated epoch rails m l'

theorem RailsTerminated.reaches {epoch : Epoch} {rails : List RailId} {l l' : Ledger}
    (h : RailsTerminated epoch rails l l') : l.Reaches l' := by
  induction rails generalizing l with
  | nil =>
    rw [show l' = l from h]
    exact .refl
  | cons rail rails ih =>
    obtain ⟨endEpoch, m, hrail, hrails⟩ := h
    exact (Ledger.reaches_of_terminate hrail).trans (ih hrails)

theorem succeeds_terminateRails {epoch : Epoch} {rails : List RailId} :
    Succeeds (terminateRails epoch rails) s u s' ↔
      ∃ l, RailsTerminated epoch rails s.ledger l ∧ s' = { s with ledger := l } := by
  induction rails generalizing s with
  | nil => simp [terminateRails, RailsTerminated]
  | cons rail rails ih =>
    simp only [terminateRails, succeeds_bind, succeeds_ledgerCall, ih, RailsTerminated]
    constructor
    · rintro ⟨endEpoch, _, ⟨m, hrail, rfl⟩, l, hrails, rfl⟩
      exact ⟨l, ⟨endEpoch, m, hrail, hrails⟩, rfl⟩
    · rintro ⟨l, ⟨endEpoch, m, hrail, hrails⟩, rfl⟩
      exact ⟨endEpoch, _, ⟨m, hrail, rfl⟩, l, hrails, rfl⟩

theorem within_terminateRails {epoch : Epoch} {rails : List RailId}
    (h : ∀ rail ∈ rails, Within R (ledgerCall (·.terminate rail epoch))) :
    Within R (terminateRails epoch rails) := by
  induction rails with
  | nil => exact within_pure
  | cons rail rails ih =>
    obtain ⟨hrail, hrails⟩ := List.forall_mem_cons.mp h
    exact hrail.bind fun _ => ih hrails

/-- The egress rails that a termination of the service terminates. -/
def liveEgress (l : Ledger) (d : DataSet) : List RailId :=
  d.egressRails.filter fun rail => (l.rail? rail).any (!·.isTerminated)

def endedDataSet (d : DataSet) (endEpoch : Epoch) : DataSet :=
  if d.hasCdnRails then DataSet.withoutCdn { d with endEpoch := endEpoch }
  else { d with endEpoch := endEpoch }

theorem succeeds_terminateService : Succeeds (terminateService ctx id) s endEpoch s' ↔
    ∃ d l l', s.state.dataSet? id = some d ∧
      (ctx.caller = d.payer ∨ ctx.caller = d.payee ∨ ctx.caller = d.serviceProvider) ∧
      d.isTerminated = false ∧ s.ledger.terminate d.storageRail ctx.epoch = .ok (endEpoch, l) ∧
      RailsTerminated ctx.epoch (liveEgress s.ledger d) l l' ∧
      s' = { s with
        state := { s.state with
          dataSets := s.state.dataSets.insert id (endedDataSet d endEpoch) }
        ledger := l'
        events := s.events ++
          [if d.hasCdnRails then
            .serviceTerminated ctx.caller id d.storageRail d.cacheMissRail d.cdnRail
          else .serviceTerminated ctx.caller id d.storageRail none none,
          .storagePaymentTerminated id endEpoch d.storageRail] } := by
  simp only [terminateService, succeeds_bind, succeeds_dataSet, succeeds_throw, succeeds_get,
    succeeds_ledgerCall, succeeds_terminateRails, succeeds_setDataSet, succeeds_emit,
    succeeds_ite, succeeds_pure, and_assoc, exists_and_left, exists_eq_left, exists_const,
    false_and, and_false, exists_false, false_or, Bool.not_eq_true]
  refine exists_congr fun d => and_congr_right fun _ => and_congr ?_ (and_congr_right fun _ => ?_)
  · grind
  constructor
  · rintro ⟨_, _, ⟨l, hstorage, rfl⟩, _, ⟨l', hegress, rfl⟩, ⟨hcdn, rfl, rfl⟩ | ⟨hplain, rfl, rfl⟩⟩
    · refine ⟨l, hstorage, l', hegress, ?_⟩
      simp [endedDataSet, hcdn]
    · refine ⟨l, hstorage, l', hegress, ?_⟩
      simp [endedDataSet, hplain]
  · rintro ⟨l, hstorage, l', hegress, rfl⟩
    refine ⟨endEpoch, _, ⟨l, hstorage, rfl⟩, _, ⟨l', hegress, rfl⟩, ?_⟩
    cases hcdn : d.hasCdnRails with
    | true => simp [endedDataSet, hcdn]
    | false => simp [endedDataSet, hcdn]

/-- A refused termination of the service may have terminated rails of the data set. -/
theorem refusedTo_terminateService {R : DataSet → Service → Service → Prop}
    [∀ d, Std.Refl (R d)] [∀ d, IsTrans Service (R d)]
    (h : ∀ d, ∀ rail ∈ d.railIds, Within (R d) (ledgerCall (·.terminate rail ctx.epoch))) :
    RefusedTo (fun s' => s' = s ∨ ∃ d, s.state.dataSet? id = some d ∧
        (ctx.caller = d.payer ∨ ctx.caller = d.payee ∨ ctx.caller = d.serviceProvider) ∧ R d s s')
      (terminateService ctx id) s := by
  refine within_dataSet.bind_refusedTo (.inl rfl) fun d hd => ?_
  refine RefusedTo.guard (.inl rfl) fun hparty => RefusedTo.guard (.inl rfl) fun _ => ?_
  intro e s' hfails
  refine .inr ⟨d, (succeeds_dataSet.mp hd).1, by grind, ?_⟩
  have total_end (endEpoch : Epoch) : Total (do
      emit (.storagePaymentTerminated id endEpoch d.storageRail)
      return endEpoch) :=
    total_emit.bind fun _ => total_pure
  refine (within_get.bind_refused fun t => ?_ : RefusedWithin (R d) _) s e s' hfails
  refine (h d d.storageRail (List.mem_cons_self ..)).bind_refused fun endEpoch => ?_
  refine (within_terminateRails fun rail hrail => h d rail ?_).bind_refused fun _ => ?_
  · exact List.mem_cons_of_mem _ (List.mem_filter.mp hrail).1
  · exact (Total.ite
      (total_modifyState.bind fun _ => total_emit.bind fun _ => total_end _)
      (total_modifyState.bind fun _ => total_emit.bind fun _ => total_end _)).refusedWithin

theorem refusedWithin_terminateService :
    RefusedWithin SameButLedger (terminateService ctx id) := by
  intro s e s' hfails
  have hrail : ∀ d : DataSet, ∀ rail ∈ d.railIds,
      Within SameButLedger (ledgerCall (·.terminate rail ctx.epoch)) :=
    fun _ _ _ => within_ledgerCall fun _ _ _ => Ledger.reaches_of_terminate
  obtain rfl | ⟨d, -, -, h⟩ := refusedTo_terminateService (R := fun _ => SameButLedger) hrail
    e s' hfails
  · exact refl_of SameButLedger _
  · exact h

end ServiceM

end WarmStorage
