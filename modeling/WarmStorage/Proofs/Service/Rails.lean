import WarmStorage.Proofs.Service.Termination

/-!
What a call does to a rail that there was. Only the data set that has the rail can be the cause: its
service is terminated, its storage is priced anew, or egress is paid for. So a rail that no data set
has stays as it is, and so does the storage rail of a data set once its storage has an end.
-/

namespace WarmStorage

namespace ServiceM

variable {l l' : Ledger} {rail : RailId} {r : Rail} {amount lockup rate : TokenAmount}

theorem LockupRaised.keepsEnds (h : LockupRaised l rail r amount lockup l') : l.KeepsEnds l' := by
  obtain ⟨-, rfl⟩ | ⟨-, h⟩ := h
  · exact .refl
  · exact Ledger.keepsEnds_of_modifyLockup h

theorem Charged.keepsEnds (h : Charged l rail rate amount l') : l.KeepsEnds l' := by
  obtain ⟨-, rfl⟩ | ⟨-, h⟩ := h
  · exact .refl
  · exact Ledger.keepsEnds_of_modifyPayment h

end ServiceM

namespace Service

open ServiceM

variable {s s' : Service} {id other : DataSetId} {d : DataSet} {rail : RailId} {r r' : Rail}
  {ctx : CallContext} {c : Call} {reply : Reply} {e : ServiceError} {l l' : Ledger}

inductive RailChange (ctx : CallContext) (c : Call) (s : Service) (rail : RailId)
    (r r' : Rail) : Prop where
  | same (eq : r' = r)
  | ended {id : DataSetId} {d : DataSet} {endEpoch : Epoch} (hd : s.state.dataSet? id = some d)
      (hrail : rail ∈ d.railIds) (live : d.isTerminated = false) (call : c = .terminateService id)
      (answer : (s.call ctx c).1 = .ok (.endEpoch endEpoch)) (eq : r' = r.endedAt ctx.epoch)
  | priced {id : DataSetId} {d : DataSet} (hd : s.state.dataSet? id = some d)
      (hrail : rail = d.storageRail) (live : d.isTerminated = false)
      (endEpoch : r'.endEpoch = r.endEpoch)
  | paid {id : DataSetId} {d : DataSet} (hd : s.state.dataSet? id = some d)
      (hrail : rail ∈ d.egressRails) (endEpoch : r'.endEpoch = r.endEpoch)

theorem railChange_of_same (hrail : s'.ledger.rail? rail = s.ledger.rail? rail)
    (hr : s.ledger.rail? rail = some r) (hr' : s'.ledger.rail? rail = some r') :
    RailChange ctx c s rail r r' := by
  rw [hrail, hr, Option.some.injEq] at hr'
  exact .same hr'.symm

theorem railChange_of_egress (hd : s.state.dataSet? id = some d)
    (keeps : s.ledger.KeepsEnds s'.ledger)
    (hrails : rail ∉ d.egressRails → s'.ledger.rail? rail = s.ledger.rail? rail)
    (hr : s.ledger.rail? rail = some r) (hr' : s'.ledger.rail? rail = some r') :
    RailChange ctx c s rail r r' := by
  by_cases hrail : rail ∈ d.egressRails
  · obtain ⟨q, hq, hend⟩ := keeps rail r hr
    rw [hr', Option.some.injEq] at hq
    subst hq
    exact .paid hd hrail hend
  · exact railChange_of_same (hrails hrail) hr hr'

theorem ne_of_not_egress {cdnRail cacheMissRail : RailId} (hcdn : d.cdnRail = some cdnRail)
    (hcacheMiss : d.cacheMissRail = some cacheMissRail) (hrail : rail ∉ d.egressRails) :
    cdnRail ≠ rail ∧ cacheMissRail ≠ rail := by
  rw [Deal.egressRails, hcdn, hcacheMiss] at hrail
  simp only [Option.toList_some, List.cons_append, List.nil_append, List.mem_cons,
    List.not_mem_nil, or_false, not_or, eq_comm (a := rail)] at hrail
  exact hrail.symm

theorem railChange_of_railsOpened {cfg : Config} {terms : RailTerms} {withCdn : Bool}
    (opened : RailsOpened s.ledger cfg terms withCdn d.storageRail (d.cacheMissRail, d.cdnRail)
      s'.ledger)
    (numbered : s.ledger.Numbered) (numbered' : s'.ledger.Numbered)
    (hr : s.ledger.rail? rail = some r) (hr' : s'.ledger.rail? rail = some r') :
    RailChange ctx c s rail r r' := by
  refine railChange_of_same (opened.rail?_other fun hrail => ?_) hr hr'
  -- the rails that are opened have numbers that the ledger has not given before
  have hle : s.ledger.lastRail.toNat ≤ s'.ledger.lastRail.toNat := by
    rw [← numbered.size_eq, ← numbered'.size_eq]
    exact opened.reaches.size_le
  have hlt := (railsFrom_of_railsOpened opened rfl).lt hle hrail
  have hopened := (numbered.isSome_rail?_iff rail).mp (by rw [hr]; rfl)
  omega

theorem railChange_of_succeeds (h : Succeeds (perform ctx c) s reply s')
    (numbered : s.ledger.Numbered) (numbered' : s'.ledger.Numbered)
    (hr : s.ledger.rail? rail = some r) (hr' : s'.ledger.rail? rail = some r') :
    RailChange ctx c s rail r r' := by
  have hcall : s.call ctx c = (.ok reply, s') := call_eq_ok_iff.mpr h
  cases performed_of_succeeds h with
  | @created id operator payee request provider entries clientId storageRail egress _ _ rails =>
    exact railChange_of_railsOpened (d := createdDataSet s.state.config id operator request
      provider payee entries clientId storageRail egress) rails numbered numbered' hr hr'
  | @advanced _ _ _ d _ _ _ _ _ hd _ _ _ priced =>
    obtain ⟨-, -, rfl⟩ | ⟨live, amount, -, -, hl⟩ := priced
    · exact railChange_of_same rfl hr hr'
    obtain ⟨q, hq, hend⟩ := Ledger.keepsEnds_of_modifyPayment hl rail r hr
    obtain ⟨_, -, -, hrails⟩ := Ledger.rail?_of_modifyPayment hl
    by_cases hstorage : d.storageRail = rail
    · cases hr'.symm.trans hq
      exact .priced hd hstorage.symm live hend
    · exact railChange_of_same ((hrails rail).trans (if_neg hstorage)) hr hr'
  | @ended _ _ d _ _ hd live _ storage egress =>
    have hrail := rail?_of_serviceTerminated storage egress rail
    by_cases hmem : rail ∈ d.railIds
    · rw [if_pos hmem, hr, Option.map_some] at hrail
      cases hr'.symm.trans hrail
      exact .ended hd hmem live rfl (congrArg Prod.fst hcall) rfl
    · exact railChange_of_same (hrail.trans (if_neg hmem)) hr hr'
  | toppedUp checked hcdn hcacheMiss =>
    refine railChange_of_egress checked.dataSet_eq (hcdn.keepsEnds.trans hcacheMiss.keepsEnds)
      (fun hrail => ?_) hr hr'
    obtain ⟨hneCdn, hneCacheMiss⟩ :=
      ne_of_not_egress checked.cdnRail_eq checked.cacheMissRail_eq hrail
    exact (rail?_of_lockupRaised hcacheMiss hneCacheMiss).trans (rail?_of_lockupRaised hcdn hneCdn)
  | settled checked hcdn hcacheMiss =>
    refine railChange_of_egress checked.dataSet_eq (hcdn.keepsEnds.trans hcacheMiss.keepsEnds)
      (fun hrail => ?_) hr hr'
    obtain ⟨hneCdn, hneCacheMiss⟩ :=
      ne_of_not_egress checked.cdnRail_eq checked.cacheMissRail_eq hrail
    exact (rail?_of_charged hcacheMiss hneCacheMiss).trans (rail?_of_charged hcdn hneCdn)
  | _ => exact railChange_of_same rfl hr hr'

/-- A payment for egress that is refused may have changed the first of its rails. -/
theorem railChange_of_fails (indexed : s.state.Indexed) (h : Fails (perform ctx c) s e s')
    (hr : s.ledger.rail? rail = some r) (hr' : s'.ledger.rail? rail = some r') :
    RailChange ctx c s rail r r' := by
  by_cases hc : c.isEgressPayment = false
  · have hsame := unchanged_perform hc (fun id d hd => (indexed.dataSet id d hd).distinct) e s' h
    exact railChange_of_same (by rw [hsame]) hr hr'
  cases c with
  | topUpEgress id cdnAmount cacheMissAmount =>
    obtain rfl | ⟨d, cdnRail, cacheMissRail, cdn, cacheMiss, cdnLockup, cacheMissLockup, l,
      hchecked, hcdn, rfl⟩ := refusedTo_topUpEgress e s' (fails_done.mp h)
    · exact railChange_of_same rfl hr hr'
    · refine railChange_of_egress hchecked.dataSet_eq hcdn.keepsEnds (fun hrail => ?_) hr hr'
      exact rail?_of_lockupRaised hcdn
        (ne_of_not_egress hchecked.cdnRail_eq hchecked.cacheMissRail_eq hrail).1
  | settleEgress id cdnAmount cacheMissAmount =>
    obtain rfl | ⟨d, cdnRail, cacheMissRail, cdn, cacheMiss, l, hchecked, hcdn, rfl⟩ :=
      refusedTo_settleEgress e s' (fails_done.mp h)
    · exact railChange_of_same rfl hr hr'
    · refine railChange_of_egress hchecked.dataSet_eq hcdn.keepsEnds (fun hrail => ?_) hr hr'
      exact rail?_of_charged hcdn
        (ne_of_not_egress hchecked.cdnRail_eq hchecked.cacheMissRail_eq hrail).1
  | _ => exact absurd rfl hc

theorem Reachable.railChange (h : Reachable s)
    (room : (s.call ctx c).2.ledger.rails.size < UInt64.size) (hr : s.ledger.rail? rail = some r)
    (hr' : (s.call ctx c).2.ledger.rail? rail = some r') : RailChange ctx c s rail r r' := by
  cases hcall : s.call ctx c with
  | mk answer s' =>
  rw [hcall] at room hr'
  have room' := Nat.lt_of_le_of_lt (reaches_of_call hcall).size_le room
  cases answer with
  | ok reply =>
    exact railChange_of_succeeds (call_eq_ok_iff.mp hcall) (h.numbered room')
      ((h.call hcall).numbered room) hr hr'
  | error e => exact railChange_of_fails h.indexed (call_eq_error_iff.mp hcall) hr hr'

theorem Reachable.eq_of_rail (h : Reachable s) (room : s.ledger.rails.size < UInt64.size)
    {d' : DataSet} (hd : s.state.dataSet? id = some d) (hrail : rail ∈ d.railIds)
    (hd' : s.state.dataSet? other = some d') (hrail' : rail ∈ d'.railIds) : d' = d := by
  have indexed := h.railsIndexed room
  have howner := (indexed.owner_iff rail id).mpr ⟨d, hd, hrail⟩
  rw [(indexed.owner_iff rail other).mpr ⟨d', hd', hrail'⟩, Option.some.injEq] at howner
  rw [howner, hd, Option.some.injEq] at hd'
  exact hd'.symm

theorem Reachable.storageRail_frozen (h : Reachable s)
    (room : (s.call ctx c).2.ledger.rails.size < UInt64.size)
    (hd : s.state.dataSet? id = some d) (hended : d.isTerminated = true) :
    (s.call ctx c).2.ledger.rail? d.storageRail = s.ledger.rail? d.storageRail := by
  have reaches : s.ledger.Reaches (s.call ctx c).2.ledger := reaches_of_call rfl
  have room' := Nat.lt_of_le_of_lt reaches.size_le room
  have hstorage := d.storageRail_mem_railIds
  obtain ⟨r, hr⟩ := h.exists_rail room' hd hstorage
  obtain ⟨r', hr'⟩ := Option.isSome_iff_exists.mp (reaches.isSome_rail? (by rw [hr]; rfl))
  cases h.railChange room hr hr' with
  | same heq => rw [hr', hr, heq]
  | ended hd' hrail hlive =>
    rw [h.eq_of_rail room' hd hstorage hd' hrail, hended] at hlive
    contradiction
  | priced hd' hrail hlive =>
    rw [h.eq_of_rail room' hd hstorage hd' (hrail ▸ List.mem_cons_self), hended] at hlive
    contradiction
  | paid hd' hrail =>
    have heq := h.eq_of_rail room' hd hstorage hd' (List.mem_cons_of_mem _ hrail)
    have hdistinct := (h.indexed.dataSet id d hd).distinct
    rw [heq] at hrail
    exact absurd hrail (List.nodup_cons.mp hdistinct).1

theorem Reachable.orphan_frozen (h : Reachable s)
    (room : (s.call ctx c).2.ledger.rails.size < UInt64.size)
    (hholder : s.HolderIs rail (fun _ => False)) :
    (s.call ctx c).2.ledger.rail? rail = s.ledger.rail? rail := by
  have reaches : s.ledger.Reaches (s.call ctx c).2.ledger := reaches_of_call rfl
  obtain ⟨r, hr⟩ := Option.isSome_iff_exists.mp hholder.1
  obtain ⟨r', hr'⟩ := Option.isSome_iff_exists.mp (reaches.isSome_rail? hholder.1)
  cases h.railChange room hr hr' with
  | same heq => rw [hr', hr, heq]
  | ended hd hrail => exact (hholder.2 _ _ hd hrail).elim
  | priced hd hrail => exact (hholder.2 _ _ hd (hrail ▸ List.mem_cons_self)).elim
  | paid hd hrail => exact (hholder.2 _ _ hd (List.mem_cons_of_mem _ hrail)).elim

end Service

end WarmStorage
