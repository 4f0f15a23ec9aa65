import WarmStorage.Proofs.Service.Configuration
import WarmStorage.Proofs.Service.Index

/-!
How data sets are revised. A data set that is there after a call was there before, and one of a few
changes was made to it, or the call created it. Only creations number data sets for their payers.
-/

namespace WarmStorage

structure ServiceState.SameNumbers (s s' : ServiceState) : Prop where
  clientIds : s'.replay.dataSets = s.replay.dataSets
  payerCounters : s'.payerCounters = s.payerCounters

namespace Service

open ServiceM

variable {s s' : Service} {id other : DataSetId} {d d' d₁ : DataSet} {ctx : CallContext} {c : Call}
  {reply : Reply} {answer : Except ServiceError Reply} {moves : List Move}

inductive Revision (ctx : CallContext) (c : Call) (s : Service) (id : DataSetId) (d : DataSet) :
    DataSet → Prop where
  | kept : Revision ctx c s id d d
  | extended {ids : List PieceId} {request : AdditionRequest} {count : UInt64}
      (valid : ∀ entries ∈ request.pieceMetadata,
        s.state.config.metadata.validate entries .piece = .ok ()) :
      Revision ctx c s id d (addedPieces d ids request count)
  | reassigned {serviceProvider : Address} {providerId : ProviderId} :
      Revision ctx c s id d { d with serviceProvider := serviceProvider, providerId := providerId }
  | reported {endEpoch : Epoch} (live : d.isTerminated = false) :
      Revision ctx c s id d { d with endEpoch := endEpoch }
  | ended {endEpoch : Epoch} {l : Ledger} (call : c = .terminateService id)
      (live : d.isTerminated = false)
      (storage : s.ledger.terminate d.storageRail ctx.epoch = .ok (endEpoch, l)) :
      Revision ctx c s id d (endedDataSet d endEpoch)

inductive Revises (ctx : CallContext) (c : Call) (s s' : Service) : Prop where
  | created {id : DataSetId} {serviceProvider payee : Address} {request : CreationRequest}
      {provider : ProviderId} {entries : Metadata} {clientId : UInt256} {storageRail : RailId}
      {egress : Option RailId × Option RailId}
      (call : c = .dataSetCreated id serviceProvider request)
      (checked : CreationChecked ctx id serviceProvider request s provider payee entries clientId)
      (rails : RailsOpened s.ledger s.state.config
        (storageTerms s.state.config request.payer payee)
        (creationMessage s.state.config.versioning.cdnFlag request clientId payee entries).2
        storageRail egress s'.ledger)
      (state : s'.state = s.state.registered (createdDataSet s.state.config id serviceProvider
        request provider payee entries clientId storageRail egress))
  | revised (numbers : s.state.SameNumbers s'.state)
      (dataSets : ∀ id d', s'.state.dataSet? id = some d' →
        ∃ d, s.state.dataSet? id = some d ∧ Revision ctx c s id d d')

theorem revises_of_same (hdataSets : s'.state.dataSets = s.state.dataSets)
    (numbers : s.state.SameNumbers s'.state) : Revises ctx c s s' := by
  refine .revised numbers fun id d' hd' => ⟨d', ?_, .kept⟩
  rw [ServiceState.dataSet?, ← hdataSets]
  exact hd'

theorem revises_of_insert (hd : s.state.dataSet? other = some d)
    (hdataSets : s'.state.dataSets = s.state.dataSets.insert other d₁)
    (revision : Revision ctx c s other d d₁) (numbers : s.state.SameNumbers s'.state) :
    Revises ctx c s s' := by
  refine .revised numbers fun id d' hd' => ?_
  rw [ServiceState.dataSet?, hdataSets, Std.ExtTreeMap.getElem?_insert] at hd'
  simp only [Std.compare_eq_iff_eq] at hd'
  split at hd'
  · rename_i heq
    cases hd'
    rw [← heq]
    exact ⟨d, hd, revision⟩
  · exact ⟨d', hd', .kept⟩

theorem revises_of_succeeds (h : Succeeds (perform ctx c) s reply s') : Revises ctx c s s' := by
  cases performed_of_succeeds h with
  | created checked rails => exact .created rfl checked rails rfl
  | extended _ hd _ valid => exact revises_of_insert hd rfl (.extended valid) ⟨rfl, rfl⟩
  | reassigned _ hd => exact revises_of_insert hd rfl .reassigned ⟨rfl, rfl⟩
  | reported _ hd live => exact revises_of_insert hd rfl (.reported live) ⟨rfl, rfl⟩
  | ended hd live _ storage =>
    exact revises_of_insert hd rfl (.ended rfl live storage) ⟨rfl, rfl⟩
  | deleted =>
    refine .revised ⟨rfl, rfl⟩ fun other d' hd' => ?_
    rw [ServiceState.dataSet?_withoutDataSet] at hd'
    split at hd'
    · contradiction
    · exact ⟨d', hd', .kept⟩
  | _ => exact revises_of_same rfl ⟨rfl, rfl⟩

theorem revises_of_call (h : s.call ctx c = (answer, s')) : Revises ctx c s s' := by
  cases answer with
  | ok reply => exact revises_of_succeeds (call_eq_ok_iff.mp h)
  | error e =>
    have hstate := (refusedWithin_perform _ _ _ (call_eq_error_iff.mp h)).state
    refine revises_of_same (congrArg _ hstate) ?_
    rw [hstate]
    exact ⟨rfl, rfl⟩

theorem state_run {P : ServiceState → Prop} (h : P s.state)
    (step : ∀ {ctx c s s'}, Revises ctx c s s' → s.state.config.Adjusts s'.state.config →
      P s.state → P s'.state) : P (s.run moves).state := by
  induction moves generalizing s with
  | nil => exact h
  | cons m moves ih =>
    apply ih
    obtain ⟨ctx, c, rfl⟩ | ⟨op, rfl⟩ | ⟨hstate, -⟩ := move_cases (s := s) m
    · exact step (revises_of_call rfl) adjusts_of_move h
    · exact h
    · rw [hstate]
      exact h

end Service

end WarmStorage
