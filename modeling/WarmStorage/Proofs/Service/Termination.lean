import WarmStorage.Proofs.Service.Contracts

/-!
What a termination of the service leaves behind. Every rail of the data set that was live ends its
lockup period after the epoch of the call, and an ended rail stays as it is. Only at epoch zero does
a rail without a lockup period stay live, since zero is what a live rail has for its end.
-/

namespace WarmStorage

theorem Word.clampAdd_eq_zero_iff {a b : UInt64} : clampAdd a b = 0 ↔ a = 0 ∧ b = 0 := by
  simp only [← UInt64.toNat_inj, toNat_clampAdd, UInt64.toNat_zero]
  omega

namespace Rail

variable {r : Rail} {epoch : Epoch}

def endedAt (r : Rail) (epoch : Epoch) : Rail :=
  if r.isTerminated then r
  else { r with endEpoch := Word.clampAdd epoch r.lockupPeriod }

theorem endedAt_of_isTerminated (h : r.isTerminated = true) : r.endedAt epoch = r :=
  if_pos h

theorem endedAt_of_live (h : r.isTerminated = false) :
    r.endedAt epoch = { r with endEpoch := Word.clampAdd epoch r.lockupPeriod } :=
  if_neg (by simp [h])

theorem isTerminated_endedAt_iff : (r.endedAt epoch).isTerminated = true ↔
    r.isTerminated = true ∨ epoch ≠ 0 ∨ r.lockupPeriod ≠ 0 := by
  cases hended : r.isTerminated with
  | true => simp [endedAt_of_isTerminated hended, hended]
  | false =>
    rw [endedAt_of_live hended, isTerminated, bne_iff_ne, ne_eq, Word.clampAdd_eq_zero_iff,
      not_and_or]
    simp

@[simp]
theorem endedAt_endedAt : (r.endedAt epoch).endedAt epoch = r.endedAt epoch := by
  cases hended : r.isTerminated with
  | true => rw [endedAt_of_isTerminated hended, endedAt_of_isTerminated hended]
  | false =>
    -- the end does not depend on the end that is replaced
    rw [endedAt_of_live hended]
    unfold endedAt
    split
    · rfl
    · rfl

end Rail

theorem Deal.storageRail_mem_railIds (d : Deal) : d.storageRail ∈ d.railIds :=
  List.mem_cons_self

namespace ServiceM

variable {l l' m : Ledger} {epoch endEpoch : Epoch} {rail other : RailId} {rails : List RailId}
  {d : DataSet}

theorem rail?_of_railTerminated (h : l.terminate rail epoch = .ok (endEpoch, l'))
    (other : RailId) : l'.rail? other =
      if rail = other then (l.rail? other).map (·.endedAt epoch) else l.rail? other := by
  obtain ⟨r, hr, hlive, rfl, hrails⟩ := Ledger.rail?_of_terminate h
  rw [hrails other]
  split
  · rename_i heq
    rw [← heq, hr, Option.map_some, Rail.endedAt_of_live hlive]
  · rfl

theorem RailsTerminated.rail? (h : RailsTerminated epoch rails l l') (other : RailId) :
    l'.rail? other =
      if other ∈ rails then (l.rail? other).map (·.endedAt epoch) else l.rail? other := by
  induction rails generalizing l with
  | nil =>
    rw [show l' = l from h]
    simp
  | cons rail rails ih =>
    obtain ⟨endEpoch, m, hrail, hrails⟩ := h
    rw [ih hrails, rail?_of_railTerminated hrail]
    by_cases heq : rail = other
    · simp [heq, Function.comp_def]
    · simp [heq, Ne.symm heq]

theorem rail?_of_serviceTerminated (hstorage : l.terminate d.storageRail epoch = .ok (endEpoch, m))
    (hegress : RailsTerminated epoch (liveEgress l d) m l') (other : RailId) :
    l'.rail? other =
      if other ∈ d.railIds then (l.rail? other).map (·.endedAt epoch) else l.rail? other := by
  -- rails for egress that were left alone had ended before, so they are no exception
  rw [hegress.rail?, rail?_of_railTerminated hstorage, liveEgress, Deal.railIds]
  simp only [List.mem_filter, List.mem_cons, eq_comm (b := d.storageRail)]
  by_cases hstorage : d.storageRail = other
  · simp [hstorage, Function.comp_def]
  by_cases hmem : other ∈ d.egressRails
  · cases hr : l.rail? other with
    | none => simp [hstorage]
    | some r =>
      cases hended : r.isTerminated with
      | true => simp [hstorage, hmem, hended, Rail.endedAt_of_isTerminated]
      | false => simp [hstorage, hmem, hended]
  · simp [hstorage, hmem]

theorem withoutCdn_of_endedDataSet (h : d.hasCdnRails = true) :
    (endedDataSet d endEpoch).withCdn = false ∧
      (endedDataSet d endEpoch).metadata.hasKey withCdnKey = false := by
  rw [endedDataSet, if_pos h]
  simp [DataSet.withoutCdn, Metadata.hasKey]

end ServiceM

namespace Service

open ServiceM

variable {s s' : Service} {id : DataSetId} {d : DataSet} {rail : RailId} {moves : List Move}
  {ctx : CallContext} {cdnAmount cacheMissAmount : TokenAmount} {endEpoch : Epoch}

/-- Once its rails for egress ended, a data set can never be paid for egress in advance. -/
theorem Reachable.topUpEgress_refused (h : Reachable s)
    (room : (s.run moves).ledger.rails.size < UInt64.size) (hd : s.state.dataSet? id = some d)
    (ended : ∀ rail ∈ d.egressRails, ∃ r, s.ledger.rail? rail = some r ∧ r.isTerminated = true)
    (same : ∀ d', (s.run moves).state.dataSet? id = some d' → d'.storageRail = d.storageRail) :
    ∃ e, ((s.run moves).call ctx (.topUpEgress id cdnAmount cacheMissAmount)).1 = .error e := by
  have reaches := reaches_run s moves
  have room' := Nat.lt_of_le_of_lt reaches.size_le room
  cases hcall : (s.run moves).call ctx (.topUpEgress id cdnAmount cacheMissAmount) with
  | mk answer s' =>
  cases answer with
  | error e => exact ⟨e, rfl⟩
  | ok reply =>
    obtain ⟨-, hsucceeds⟩ := succeeds_done.mp (call_eq_ok_iff.mp hcall)
    obtain ⟨d', cdnRail, _, _, _, _, _, _, _, hchecked, -⟩ :=
      succeeds_topUpEgress.mp hsucceeds
    -- the data set is still the one that has the storage rail, and so the other rails as well
    have hholder := h.holderIs_run (h.holderIs room' hd d.storageRail_mem_railIds) room
    have hentry := hholder.2 id d' hchecked.dataSet_eq
      (by rw [← same d' hchecked.dataSet_eq]; exact d'.storageRail_mem_railIds)
    injection hentry with _ _ _ _ _ hcdnRail
    have hmem : cdnRail ∈ d.egressRails := by
      rw [Deal.egressRails, ← hcdnRail, hchecked.cdnRail_eq]
      simp
    obtain ⟨r, hr, hended⟩ := ended cdnRail hmem
    obtain ⟨r', hr', -, hfrozen⟩ := h.keepsRails reaches room cdnRail r hr
    have hlive := hchecked.cdn_live
    rw [hchecked.cdn_eq, Option.some.injEq] at hr'
    rw [hr', hfrozen hended, hended] at hlive
    contradiction

theorem exists_of_serviceTerminated
    (hcall : s.call ctx (.terminateService id) = (.ok (.endEpoch endEpoch), s')) :
    ∃ d, s.state.dataSet? id = some d ∧
      s'.state.dataSet? id = some (endedDataSet d endEpoch) ∧
      (∃ r, s'.ledger.rail? d.storageRail = some r ∧ r.endEpoch = endEpoch) ∧
      ∀ rail ∈ d.railIds,
        s'.ledger.rail? rail = (s.ledger.rail? rail).map (·.endedAt ctx.epoch) := by
  obtain ⟨_, t, hterminate, hreply⟩ := succeeds_bind.mp (call_eq_ok_iff.mp hcall)
  obtain ⟨hreply, rfl⟩ := succeeds_pure.mp hreply
  cases hreply
  obtain ⟨d, l, l', hd, -, -, hstorage, hegress, rfl⟩ := succeeds_terminateService.mp hterminate
  have hrails := rail?_of_serviceTerminated hstorage hegress
  refine ⟨d, hd, Std.ExtTreeMap.getElem?_insert_self, ?_, ?_⟩
  · obtain ⟨r, hr, hlive, rfl, -⟩ := Ledger.rail?_of_terminate hstorage
    refine ⟨r.endedAt ctx.epoch, ?_, ?_⟩
    · show l'.rail? d.storageRail = _
      rw [hrails, if_pos d.storageRail_mem_railIds, hr, Option.map_some]
    · rw [Rail.endedAt_of_live hlive]
  · intro rail hrail
    show l'.rail? rail = _
    rw [hrails, if_pos hrail]

/--
A termination of the service ends every live rail of the data set, and the end of the storage rail
is the one that is answered and recorded. With its rails for egress the data set loses both marks of
the CDN add-on. After a termination at an epoch other than zero every rail is terminated, and what
happens later cannot make another payment for egress in advance possible; at epoch zero a rail for
egress is only terminated if it has a lockup period. The ledger must hold fewer rails than there are
numbers for them, as any does.
-/
theorem Reachable.terminateService_ends (h : Reachable s)
    (room : s.ledger.rails.size < UInt64.size)
    (hcall : s.call ctx (.terminateService id) = (.ok (.endEpoch endEpoch), s')) :
    ∃ d d', s.state.dataSet? id = some d ∧ s'.state.dataSet? id = some d' ∧
      d'.railIds = d.railIds ∧ d'.endEpoch = endEpoch ∧
      (∃ r, s'.ledger.rail? d.storageRail = some r ∧ r.endEpoch = endEpoch) ∧
      (∀ rail ∈ d.railIds, ∃ r, s.ledger.rail? rail = some r ∧
        s'.ledger.rail? rail = some (r.endedAt ctx.epoch) ∧
        ((r.endedAt ctx.epoch).isTerminated = true ↔
          r.isTerminated = true ∨ ctx.epoch ≠ 0 ∨ r.lockupPeriod ≠ 0)) ∧
      (d.hasCdnRails = true → d'.withCdn = false ∧ d'.metadata.hasKey withCdnKey = false) ∧
      (ctx.epoch ≠ 0 → endEpoch ≠ 0 ∧
        (∀ rail ∈ d.railIds, ∃ r, s'.ledger.rail? rail = some r ∧ r.isTerminated = true) ∧
        ∀ moves, (s'.run moves).ledger.rails.size < UInt64.size →
          (∀ d'', (s'.run moves).state.dataSet? id = some d'' →
            d''.storageRail = d.storageRail) →
          ∀ ctx' cdnAmount cacheMissAmount, ∃ e,
            ((s'.run moves).call ctx' (.topUpEgress id cdnAmount cacheMissAmount)).1 =
              .error e) := by
  obtain ⟨d, hd, hd', hstorage, hrails⟩ := exists_of_serviceTerminated hcall
  have hsame := DataSet.railIds_of_entry (entry_endedDataSet d endEpoch)
  have hended : ∀ rail ∈ d.railIds, ∃ r, s.ledger.rail? rail = some r ∧
      s'.ledger.rail? rail = some (r.endedAt ctx.epoch) ∧
      ((r.endedAt ctx.epoch).isTerminated = true ↔
        r.isTerminated = true ∨ ctx.epoch ≠ 0 ∨ r.lockupPeriod ≠ 0) := by
    intro rail hrail
    obtain ⟨r, hr⟩ := h.exists_rail room hd hrail
    refine ⟨r, hr, ?_, Rail.isTerminated_endedAt_iff⟩
    rw [hrails rail hrail, hr, Option.map_some]
  refine ⟨d, _, hd, hd', hsame, endEpoch_endedDataSet d endEpoch, hstorage, hended,
    withoutCdn_of_endedDataSet, ?_⟩
  intro hepoch
  -- after epoch zero an end is never taken for no end
  have hterminated : ∀ rail ∈ d.railIds,
      ∃ r, s'.ledger.rail? rail = some r ∧ r.isTerminated = true := by
    intro rail hrail
    obtain ⟨r, -, hr', hiff⟩ := hended rail hrail
    exact ⟨_, hr', hiff.mpr (.inr (.inl hepoch))⟩
  refine ⟨?_, hterminated, ?_⟩
  · obtain ⟨r, hr, rfl⟩ := hstorage
    obtain ⟨r', hr', hlive⟩ := hterminated d.storageRail d.storageRail_mem_railIds
    rw [hr, Option.some.injEq] at hr'
    rw [← hr'] at hlive
    exact bne_iff_ne.mp hlive
  · intro moves room' same ctx' cdnAmount cacheMissAmount
    injection hsame with hsameStorage hsameEgress
    refine (h.call hcall).topUpEgress_refused room' hd' ?_ ?_
    · rw [hsameEgress]
      exact fun rail hrail => hterminated rail (List.mem_cons_of_mem _ hrail)
    · rw [hsameStorage]
      exact same

def endedCdnService (epoch : Epoch) : Service :=
  (cdnService.call ⟨cdnPayer, epoch⟩ (.terminateService 1)).2

theorem terminateService_ends_cdnService :
    cdnService.call ⟨cdnPayer, 20⟩ (.terminateService 1) =
      (.ok (.endEpoch (20 + epochsPerMonth)), endedCdnService 20) ∧
    (∀ rail ∈ [1, 2, 3], ∃ r, (endedCdnService 20).ledger.rail? rail = some r ∧
      r.isTerminated = true) ∧
    ∃ e, (((endedCdnService 20).run [.operate (.deposit 5 cdnPayer 100)]).call ⟨cdnPayer, 21⟩
      (.topUpEgress 1 5 5)).1 = .error e := by
  have hcall : cdnService.call ⟨cdnPayer, 20⟩ (.terminateService 1) =
      (.ok (.endEpoch (20 + epochsPerMonth)), endedCdnService 20) :=
    call_eq_of_answer (by decide +kernel)
  obtain ⟨d, d', hd, hd', hsame, -, -, -, -, hended⟩ :=
    Reachable.terminateService_ends reachable_cdnService (by decide +kernel) hcall
  obtain ⟨-, hterminated, hrefused⟩ := hended (by decide)
  have hrails : d.railIds = [1, 2, 3] := by
    have hids : (cdnService.state.dataSet? 1).map (·.railIds) = some [1, 2, 3] := by
      decide +kernel
    rw [hd] at hids
    exact Option.some.inj hids
  rw [hrails] at hterminated
  refine ⟨hcall, hterminated, ?_⟩
  refine hrefused [.operate (.deposit 5 cdnPayer 100)] (by decide +kernel) ?_ _ _ _
  intro d'' hd''
  have hd'' : (endedCdnService 20).state.dataSet? 1 = some d'' := hd''
  rw [hd', Option.some.injEq] at hd''
  subst hd''
  injection hsame

/-- Terminated at epoch zero, the rails for egress stay live, and go on to be paid in advance. -/
theorem egress_outlives_termination :
    Reachable cdnService ∧
    (cdnService.call ⟨cdnPayer, 0⟩ (.terminateService 1)).1 = .ok (.endEpoch epochsPerMonth) ∧
    (∀ rail ∈ [2, 3], ∃ r, (endedCdnService 0).ledger.rail? rail = some r ∧
      r.isTerminated = false) ∧
    ((endedCdnService 0).call ⟨cdnPayer, 20⟩ (.topUpEgress 1 5 5)).1 = .ok .done := by
  have hrails : [2, 3].all (fun rail =>
      ((endedCdnService 0).ledger.rail? rail).any (·.isTerminated == false)) = true := by
    decide +kernel
  refine ⟨reachable_cdnService, by decide +kernel, ?_, by decide +kernel⟩
  intro rail hmem
  obtain ⟨r, hr, hlive⟩ := (Option.any_eq_true _ _).mp (List.all_eq_true.mp hrails rail hmem)
  exact ⟨r, hr, beq_iff_eq.mp hlive⟩

end Service

end WarmStorage
