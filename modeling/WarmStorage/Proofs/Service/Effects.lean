import WarmStorage.Proofs.Proving.Run
import WarmStorage.Proofs.Service.Performed

/-!
What a call does to data sets, their indexes and their proving states. There are four kinds of
effects: a data set is created or deleted, its proving state takes a step, or all of this stays as
it is. What is true of data sets over a whole run splits on these four, and not on the calls.
-/

namespace WarmStorage

structure DataSet.Entry where
  id : DataSetId
  payer : Address
  clientDataSetId : UInt256
  storageRail : RailId
  cacheMissRail : Option RailId
  cdnRail : Option RailId

def DataSet.entry (d : DataSet) : DataSet.Entry :=
  ⟨d.id, d.payer, d.clientDataSetId, d.storageRail, d.cacheMissRail, d.cdnRail⟩

theorem DataSet.railIds_of_entry {d d' : DataSet} (h : d'.entry = d.entry) :
    d'.railIds = d.railIds := by
  injection h with _ _ _ hstorage hcacheMiss hcdn
  unfold Deal.railIds Deal.egressRails
  rw [hstorage, hcacheMiss, hcdn]

/-- The rails of a new data set have the numbers after `last`, up to `last'`. -/
def Deal.RailsFrom (d : Deal) (last last' : RailId) : Prop :=
  d.storageRail = last + 1 ∧
    (d.egressRails = [] ∧ last' = last + 1 ∨
      d.egressRails = [last + 2, last + 3] ∧ last' = last + 3)

namespace ServiceState

def railIds? (s : ServiceState) (id : DataSetId) : Option (List RailId) :=
  (s.dataSet? id).map fun d => d.railIds

structure SameIndex (s s' : ServiceState) : Prop where
  entries : ∀ id, (s'.dataSet? id).map DataSet.entry = (s.dataSet? id).map DataSet.entry
  railOwners : s'.railOwners = s.railOwners
  payerDataSets : s'.payerDataSets = s.payerDataSets
  replay : s'.replay.dataSets = s.replay.dataSets

structure Quiet (s s' : ServiceState) : Prop extends SameIndex s s' where
  proving : s'.proving = s.proving
  params : s.config.proving.Valid → s'.config.proving.Valid

variable {s s' : ServiceState} {id : DataSetId} {d d' : DataSet}

theorem SameIndex.entry (h : SameIndex s s') (hd : s'.dataSet? id = some d') :
    ∃ d, s.dataSet? id = some d ∧ d'.entry = d.entry := by
  have hentry := h.entries id
  rw [hd, Option.map_some] at hentry
  obtain ⟨d, hd, heq⟩ := Option.map_eq_some_iff.mp hentry.symm
  exact ⟨d, hd, heq.symm⟩

theorem SameIndex.railIds (h : SameIndex s s') (id : DataSetId) :
    s'.railIds? id = s.railIds? id := by
  unfold railIds?
  cases hd : s'.dataSet? id with
  | none =>
    have hentry := h.entries id
    rw [hd, Option.map_none, eq_comm, Option.map_eq_none_iff] at hentry
    rw [hentry]
  | some d' =>
    obtain ⟨d, hd, heq⟩ := h.entry hd
    rw [hd, Option.map_some, Option.map_some, DataSet.railIds_of_entry heq]

theorem Quiet.refl : Quiet s s :=
  ⟨⟨fun _ => rfl, rfl, rfl, rfl⟩, rfl, fun h => h⟩

theorem Quiet.of_insert (hd : s.dataSet? id = some d)
    (hdataSets : s'.dataSets = s.dataSets.insert id d') (hentry : d'.entry = d.entry)
    (hrailOwners : s'.railOwners = s.railOwners)
    (hpayerDataSets : s'.payerDataSets = s.payerDataSets)
    (hreplay : s'.replay.dataSets = s.replay.dataSets)
    (hproving : s'.proving = s.proving) (hconfig : s'.config = s.config) : Quiet s s' := by
  refine ⟨⟨?_, hrailOwners, hpayerDataSets, hreplay⟩, hproving, ?_⟩
  · intro other
    unfold dataSet? at *
    rw [hdataSets, Std.ExtTreeMap.getElem?_insert]
    split
    · rename_i heq
      rw [Std.compare_eq_iff_eq] at heq
      rw [← heq, hd, Option.map_some, Option.map_some, hentry]
    · rfl
  · rw [hconfig]
    exact fun h => h

end ServiceState

theorem ProvingParams.validate_eq_ok_iff {params : ProvingParams} :
    params.validate = .ok () ↔ params.Valid := by
  unfold ProvingParams.validate
  split
  · simp [*]
  · simp [*]

theorem ServiceM.entry_endedDataSet (d : DataSet) (endEpoch : Epoch) :
    (endedDataSet d endEpoch).entry = d.entry := by
  unfold endedDataSet
  split
  · rfl
  · rfl

namespace Service

/-- The effect of a call at `epoch`. -/
inductive Effect (epoch : Epoch) (s s' : Service) : Prop where
  | quiet (h : s.state.Quiet s'.state)
  | stepped {id : DataSetId} {p : ProvingState} {step : ProvingState.Step}
      (hp : s.state.proving? id = some p) (accepted : p.Accepts step)
      (epoch_eq : step.epoch = epoch)
      (eq : s'.state = { s.state with proving := s.state.proving.insert id (step.apply p) })
      (unended : ∀ d, s.state.dataSet? id = some d → d.isPastEnd epoch = false)
  | created {d : DataSet} (unused : s.state.dataSet? d.id = none)
      (newClientId : s.state.replay.dataSet? d.payer d.clientDataSetId = none)
      (rails : d.RailsFrom s.ledger.lastRail s'.ledger.lastRail)
      (eq : s'.state = s.state.registered d)
  | deleted {id : DataSetId} {d : DataSet} (hd : s.state.dataSet? id = some d)
      (eq : s'.state = s.state.withoutDataSet id d)

open ServiceM

variable {ctx : CallContext} {c : Call} {s s' : Service} {reply : Reply} {e : ServiceError}

theorem refusedWithin_perform : RefusedWithin SameButLedger (perform ctx c) := by
  cases c with
  | dataSetCreated => exact refusedWithin_dataSetCreated.done
  | piecesAdded => exact refusedWithin_piecesAdded.done
  | piecesScheduledForRemoval => exact refusedWithin_piecesScheduledForRemoval.done
  | possessionProven => exact refusedWithin_possessionProven.done
  | nextProvingPeriod => exact refusedWithin_nextProvingPeriod.done
  | dataSetDeleted => exact refusedWithin_dataSetDeleted.done
  | providerChanged => exact refusedWithin_providerChanged.done
  | railTerminated => exact refusedWithin_railTerminated.done
  | arbitrate => exact within_arbitrate.refused.bind_total fun _ => total_pure
  | terminateService => exact refusedWithin_terminateService.bind_total fun _ => total_pure
  | topUpEgress => exact refusedWithin_topUpEgress.done
  | settleEgress => exact refusedWithin_settleEgress.done
  | approveProvider => exact refusedWithin_approveProvider.done
  | unapproveProvider => exact refusedWithin_unapproveProvider.done
  | setProvingParams => exact refusedWithin_setProvingParams.done
  | setCommission => exact refusedWithin_setCommission.done
  | setPricing => exact refusedWithin_setPricing.done

theorem quiet_of_fails (h : Fails (perform ctx c) s e s') : s.state.Quiet s'.state := by
  rw [(refusedWithin_perform _ _ _ h).state]
  exact .refl

theorem railsFrom_of_railsOpened {d : DataSet} {terms : RailTerms} {withCdn : Bool}
    {egress : Option RailId × Option RailId} {l l' : Ledger} {cfg : Config}
    (h : RailsOpened l cfg terms withCdn d.storageRail egress l')
    (hegress : d.egressRails = egress.1.toList ++ egress.2.toList) :
    d.RailsFrom l.lastRail l'.lastRail := by
  obtain ⟨m, hstorage, ⟨-, cacheMissRail, cdnRail, m', rfl, hcacheMiss, hcdn⟩ | ⟨-, rfl, rfl⟩⟩ := h
  · obtain ⟨hrail, hm⟩ := hstorage.numbers
    obtain ⟨rfl, hm'⟩ := hcacheMiss.numbers
    obtain ⟨rfl, hl⟩ := hcdn.numbers
    refine ⟨hrail, .inr ⟨?_, ?_⟩⟩
    · rw [hegress, hm', hm, UInt64.add_assoc, UInt64.add_assoc]
      rfl
    · rw [hl, hm', hm, UInt64.add_assoc, UInt64.add_assoc]
      rfl
  · obtain ⟨hrail, hm⟩ := hstorage.numbers
    exact ⟨hrail, .inl ⟨hegress, hm⟩⟩

theorem OwnerSets.params {config : Config} {approved : Std.ExtTreeSet ProviderId} {event : Event}
    (h : s.OwnerSets c config approved event) (hvalid : s.state.config.proving.Valid) :
    config.proving.Valid := by
  cases h with
  | proving valid => exact ProvingParams.validate_eq_ok_iff.mp valid
  | _ => exact hvalid

theorem effect_of_succeeds (h : Succeeds (perform ctx c) s reply s') :
    Effect ctx.epoch s s' ∧ s.ledger.Reaches s'.ledger := by
  cases performed_of_succeeds h with
  | created checked rails =>
    exact ⟨.created checked.unused checked.chosen.2 (railsFrom_of_railsOpened rails rfl) rfl,
      rails.reaches⟩
  | extended _ hd => exact ⟨.quiet (.of_insert hd rfl rfl rfl rfl rfl rfl rfl), .refl⟩
  | scheduled => exact ⟨.quiet .refl, .refl⟩
  | proven _ hd unended hp checked =>
    refine ⟨.stepped hp (.proof checked) rfl rfl fun d' hd' => ?_, .refl⟩
    cases hd.symm.trans hd'
    exact unended
  | advanced _ hd unended hp checked priced =>
    refine ⟨.stepped hp (.advance checked) rfl rfl fun d' hd' => ?_, priced.reaches⟩
    cases hd.symm.trans hd'
    exact unended
  | deleted _ hd => exact ⟨.deleted hd rfl, .refl⟩
  | reassigned _ hd => exact ⟨.quiet (.of_insert hd rfl rfl rfl rfl rfl rfl rfl), .refl⟩
  | reported _ hd => exact ⟨.quiet (.of_insert hd rfl rfl rfl rfl rfl rfl rfl), .refl⟩
  | ignored => exact ⟨.quiet .refl, .refl⟩
  | arbitrated => exact ⟨.quiet .refl, .refl⟩
  | @ended _ endEpoch d _ _ hd _ _ storage egress =>
    exact ⟨.quiet (.of_insert hd rfl (entry_endedDataSet d endEpoch) rfl rfl rfl rfl rfl),
      (Ledger.reaches_of_terminate storage).trans egress.reaches⟩
  | toppedUp _ hcdn hcacheMiss => exact ⟨.quiet .refl, hcdn.reaches.trans hcacheMiss.reaches⟩
  | settled _ hcdn hcacheMiss => exact ⟨.quiet .refl, hcdn.reaches.trans hcacheMiss.reaches⟩
  | owner _ sets => exact ⟨.quiet ⟨⟨fun _ => rfl, rfl, rfl, rfl⟩, rfl, sets.params⟩, .refl⟩

theorem reaches_of_call {r : Except ServiceError Reply} (h : s.call ctx c = (r, s')) :
    s.ledger.Reaches s'.ledger := by
  cases r with
  | ok reply => exact (effect_of_succeeds (call_eq_ok_iff.mp h)).2
  | error e => exact (refusedWithin_perform _ _ _ (call_eq_error_iff.mp h)).ledger

theorem effect_of_call {r : Except ServiceError Reply} (h : s.call ctx c = (r, s')) :
    Effect ctx.epoch s s' := by
  cases r with
  | ok reply => exact (effect_of_succeeds (call_eq_ok_iff.mp h)).1
  | error e => exact .quiet (quiet_of_fails (call_eq_error_iff.mp h))

end Service

end WarmStorage
