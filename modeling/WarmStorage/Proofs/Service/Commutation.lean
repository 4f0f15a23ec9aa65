import WarmStorage.Proofs.Service.Agreement
import WarmStorage.Proofs.Service.Restart
import WarmStorage.Proofs.Service.Scope

/-!
Calls about data sets of different payers commute. Their scopes have nothing in common, since no
rail belongs to two data sets: whatever one call does, the other one finds its scope as it was. What
both may credit to one payee comes to the same in either order.
-/

namespace WarmStorage

def DataSet.scope (d : DataSet) : Scope :=
  ⟨d.id, d.payer, d.railIds⟩

namespace Scope

open Service

variable {A B : Scope} {s u v w x : Service} {c : Cell} {a b : Call}

def Disjoint (A B : Scope) : Prop :=
  ∀ c, A.Has c → ¬ B.Has c

theorem Disjoint.symm (h : A.Disjoint B) : B.Disjoint A :=
  fun c hB hA => h c hA hB

theorem disjoint_of_ne (id : A.id ≠ B.id) (payer : A.payer ≠ B.payer)
    (rails : ∀ rail ∈ A.rails, rail ∉ B.rails) : A.Disjoint B := by
  intro c hA hB
  cases c with
  | dataSet other => exact id (hA.symm.trans hB)
  | proving other => exact id (hA.symm.trans hB)
  | dataSetsOf other => exact payer (hA.symm.trans hB)
  | nonces other => exact payer (hA.symm.trans hB)
  | ownerOf rail => exact rails rail hA hB
  | rail rail => exact rails rail hA hB
  | account key => exact payer (hA.symm.trans hB)
  | approval key => exact payer (hA.symm.trans hB)

theorem Disjoint.call (h : A.Disjoint B) (hA : A.Holds s) (hB : B.Holds s)
    (ha : a.about? = some A.id) (hb : b.about? = some B.id) (ctx ctx' : CallContext) :
    ((s.call ctx' b).2.call ctx a).1 = (s.call ctx a).1 ∧
      A.Parallel s (s.call ctx' b).2 (s.call ctx a).2 ((s.call ctx' b).2.call ctx a).2 := by
  -- beside itself, the call about `B` shows no more than that it keeps to its scope
  have honly : B.Only s (s.call ctx' b).2 :=
    ((Parallel.refl (fun _ _ => .refl) .refl hB).call hb).2.left
  exact (Parallel.refl (fun c hc => honly.cells c (h c hc)) honly.rest hA).call ha

theorem Disjoint.eq_of_parallel (h : A.Disjoint B) (hA : A.Parallel s v u w)
    (hB : B.Parallel s u v x) : x.state = w.state ∧ x.ledger = w.ledger := by
  refine eq_of_sameAt (fun c => ?_) (hA.rest.symm.trans hB.right.rest) ?_
  · -- in either order a cell is left by the call in whose scope it is, or by none
    by_cases hcA : A.Has c
    · exact (hA.agree c hcA).symm.trans (hB.right.cells c (h c hcA))
    by_cases hcB : B.Has c
    · exact (hA.right.cells c hcA).symm.trans (hB.agree c hcB)
    · have hw : w.SameAt s c := (hA.right.cells c hcA).symm.trans (hB.left.cells c hcB).symm
      have hx : s.SameAt x c := (hA.left.cells c hcA).trans (hB.right.cells c hcB)
      exact hw.trans hx
  · obtain ⟨credits, hu, hw⟩ := hA.payouts
    obtain ⟨credits', hv, hx⟩ := hB.payouts
    rw [hx, hu, hw, hv, Ledger.foldl_credited_comm]

end Scope

namespace Service

open ServiceM

variable {s : Service} {id id' : DataSetId} {d d' : DataSet} {a b : Call} {ctx ctx' : CallContext}

theorem Reachable.holds_scope (hs : Reachable s) (room : s.ledger.rails.size < UInt64.size)
    (hd : s.state.dataSet? id = some d) : d.scope.Holds s where
  dataSet d' hd' := by
    have hid : d.id = id := (hs.indexed.dataSet id d hd).id_eq
    rw [DataSet.scope, hid, hd] at hd'
    cases hd'
    exact ⟨rfl, rfl⟩
  rail rail hrail r hr := by
    have hcontracted := hs.contracted room hd
    obtain rfl | hegress := List.mem_cons.mp hrail
    · obtain ⟨r', hr', hterms⟩ := hcontracted.storage
      cases hr.symm.trans hr'
      exact congrArg RailTerms.payer hterms
    · obtain ⟨r', hr', -, hpayer⟩ := hcontracted.egress rail hegress
      cases hr.symm.trans hr'
      exact hpayer

theorem Reachable.disjoint_scope (hs : Reachable s) (room : s.ledger.rails.size < UInt64.size)
    (hd : s.state.dataSet? id = some d) (hd' : s.state.dataSet? id' = some d')
    (payers : d.payer ≠ d'.payer) : d.scope.Disjoint d'.scope := by
  refine Scope.disjoint_of_ne ?_ payers fun rail hrail hrail' => ?_
  · intro heq
    have heq : d.id = d'.id := heq
    rw [(hs.indexed.dataSet id d hd).id_eq, (hs.indexed.dataSet id' d' hd').id_eq] at heq
    subst heq
    cases hd.symm.trans hd'
    exact payers rfl
  · have hentry := (hs.holderIs room hd hrail).2 id' d' hd' hrail'
    exact payers (congrArg DataSet.Entry.payer hentry).symm

theorem Reachable.scope_id (hs : Reachable s) (hd : s.state.dataSet? id = some d) :
    d.scope.id = id :=
  (hs.indexed.dataSet id d hd).id_eq

/--
Two calls about data sets of different payers commute, whoever makes them, with whatever arguments
and at whatever epochs, and whether they succeed, are refused, or are refused halfway. In either
order each is answered in the same way and adds the same events, and state and ledger come to the
same, with what is paid out to payees of both. The ledger must hold fewer rails than there are
numbers for them, as any does.
-/
theorem Reachable.calls_commute (hs : Reachable s) (room : s.ledger.rails.size < UInt64.size)
    (ha : a.about? = some id) (hb : b.about? = some id') (hd : s.state.dataSet? id = some d)
    (hd' : s.state.dataSet? id' = some d') (payers : d.payer ≠ d'.payer) :
    (s.move (.call ctx' b)).observe (.call ctx a) = s.observe (.call ctx a) ∧
    (s.move (.call ctx a)).observe (.call ctx' b) = s.observe (.call ctx' b) ∧
    (s.run [.call ctx a, .call ctx' b]).state = (s.run [.call ctx' b, .call ctx a]).state ∧
    (s.run [.call ctx a, .call ctx' b]).ledger = (s.run [.call ctx' b, .call ctx a]).ledger := by
  have hA := hs.holds_scope room hd
  have hB := hs.holds_scope room hd'
  have hAB := hs.disjoint_scope room hd hd' payers
  rw [← hs.scope_id hd] at ha
  rw [← hs.scope_id hd'] at hb
  -- each call does the same before and after the other, as their scopes are disjoint
  obtain ⟨hanswer, hparallel⟩ := hAB.call hA hB ha hb ctx ctx'
  obtain ⟨hanswer', hparallel'⟩ := hAB.symm.call hB hA hb ha ctx' ctx
  refine ⟨?_, ?_, hAB.eq_of_parallel hparallel hparallel'⟩
  · rw [observe_call, observe_call, move_call, hanswer, hparallel.added.drop_eq]
  · rw [observe_call, observe_call, move_call, hanswer', hparallel'.added.drop_eq]

/-! Beside the sample there is a data set of the account 11, which the first payer signs for. -/

def preparedNeighbour : Service :=
  cdnService.run heirPreparation

theorem creationChecked_neighbour :
    CreationChecked ⟨3, 5⟩ 2 7 (cdnRequest 11) preparedNeighbour 1 8 [] 0 where
  caller := by decide +kernel
  payer_ne := by decide
  serviceProvider_ne := by decide
  unused := Option.isNone_iff_eq_none.mp (by decide +kernel)
  known := by decide +kernel
  active := by decide +kernel
  approved := by decide +kernel
  payee_eq := by decide +kernel
  entries_eq := rfl
  entries_valid := by decide +kernel
  chosen := ⟨by decide +kernel, by decide +kernel⟩
  signed := ⟨cdnPayer, SigningContext.verify_eq_ok_iff.mpr
    ⟨recoverSigner_cdnSignature, .inr (lasts_heirKeys (by decide))⟩⟩
  funded := by decide +kernel

def neighbourService : Service :=
  preparedNeighbour.withCdnDataSetUnder 2 11 4 5 6

theorem reachable_neighbourService : Reachable neighbourService := by
  have hcall := call_cdnRequest_under creationChecked_neighbour (by decide +kernel)
    (by decide +kernel) (by decide +kernel) (by decide +kernel)
  rw [show preparedNeighbour.ledger.lastRail + 1 = 4 by decide +kernel,
    show (storageLedger preparedNeighbour.ledger 11).lastRail + 1 = 5 by decide +kernel,
    show (cacheMissLedger preparedNeighbour.ledger 11).lastRail + 1 = 6 by decide +kernel] at hcall
  exact reachable_cdnService.run.call hcall

/-- Egress of both is charged, which is paid to the same address. -/
theorem calls_commute_neighbourService :
    neighbourService.ledger.rails.size < UInt64.size ∧
    (∃ d d', neighbourService.state.dataSet? 1 = some d ∧
      neighbourService.state.dataSet? 2 = some d' ∧ d.payer ≠ d'.payer) ∧
    (neighbourService.run [.call ⟨6, 9⟩ (.settleEgress 1 20 5),
      .call ⟨6, 8⟩ (.settleEgress 2 7 1)]).ledger =
      (neighbourService.run [.call ⟨6, 8⟩ (.settleEgress 2 7 1),
        .call ⟨6, 9⟩ (.settleEgress 1 20 5)]).ledger ∧
    (neighbourService.run [.call ⟨6, 9⟩ (.settleEgress 1 20 5),
      .call ⟨6, 8⟩ (.settleEgress 2 7 1)]).ledger.payout 5 9 = 27 := by
  have room : neighbourService.ledger.rails.size < UInt64.size := by decide +kernel
  have hpayer : (neighbourService.state.dataSet? 1).map (·.payer) = some cdnPayer := by
    decide +kernel
  have hpayer' : (neighbourService.state.dataSet? 2).map (·.payer) = some 11 := by
    decide +kernel
  obtain ⟨d, hd, hpayer⟩ := Option.map_eq_some_iff.mp hpayer
  obtain ⟨d', hd', hpayer'⟩ := Option.map_eq_some_iff.mp hpayer'
  have payers : d.payer ≠ d'.payer := by
    rw [hpayer, hpayer']
    decide
  exact ⟨room, ⟨d, d', hd, hd', payers⟩,
    (Reachable.calls_commute reachable_neighbourService room rfl rfl hd hd' payers).2.2.2,
    by decide +kernel⟩

end Service

end WarmStorage
