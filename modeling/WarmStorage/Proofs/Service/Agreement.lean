import WarmStorage.Proofs.Service.Termination

/-!
The service and the ledger agree on when storage ends. The ledger reports that rails were
terminated, and its reports may come late, again, or in another order. All of them are true of the
ledger when they arrive, because an ended rail stays as it is. A report on a rail of a data set that
is gone finds no data set, even if another one has the identifier since.
-/

namespace WarmStorage

def Ledger.RailEnds (l : Ledger) (rail : RailId) (endEpoch : Epoch) : Prop :=
  ∃ r, l.rail? rail = some r ∧ r.isTerminated = true ∧ r.endEpoch = endEpoch

theorem Ledger.RailEnds.of_keepsRails {l l' : Ledger} {rail : RailId} {endEpoch : Epoch}
    (h : l.RailEnds rail endEpoch) (rails : l.KeepsRails l') : l'.RailEnds rail endEpoch := by
  obtain ⟨r, hr, hended, rfl⟩ := h
  obtain ⟨r', hr', -, hfrozen⟩ := rails rail r hr
  have heq := hfrozen hended
  subst heq
  exact ⟨r', hr', hended, rfl⟩

instance {l : Ledger} {rail : RailId} {endEpoch : Epoch} : Decidable (l.RailEnds rail endEpoch) :=
  decidable_of_iff ((l.rail? rail).any fun r => r.isTerminated && r.endEpoch == endEpoch) (by
    simp [Ledger.RailEnds, Option.any_eq_true])

theorem Config.SameParties.trans {c c' c'' : Config} (h : c.SameParties c')
    (h' : c'.SameParties c'') : c.SameParties c'' := by
  unfold SameParties at *
  rw [h', h]

namespace Service

open ServiceM

variable {s s' : Service} {id : DataSetId} {d : DataSet} {m : Move} {moves moves' : List Move}
  {ctx : CallContext} {rail : RailId} {endEpoch : Epoch} {leafCount : UInt64} {reply : Reply}

/-- If the move is a report of the ledger, then it says what the ledger has for the rail. -/
def ReportsTruly (s : Service) (m : Move) : Prop :=
  ∀ ctx rail endEpoch, m = .call ctx (.railTerminated rail endEpoch) →
    ctx.caller = s.state.config.payments → s.ledger.RailEnds rail endEpoch

def Faithful : Service → List Move → Prop
  | _, [] => True
  | s, m :: moves => s.ReportsTruly m ∧ (s.move m).Faithful moves

theorem faithful_append :
    s.Faithful (moves ++ moves') ↔ s.Faithful moves ∧ (s.run moves).Faithful moves' := by
  induction moves generalizing s with
  | nil => simp [Faithful]
  | cons m moves ih => simp only [List.cons_append, Faithful, ih, run_cons, and_assoc]

def EndsAgree (s : Service) : Prop :=
  ∀ id d, s.state.dataSet? id = some d →
    d.endEpoch = 0 ∨ s.ledger.RailEnds d.storageRail d.endEpoch

theorem EndsAgree.of_keepsRails (h : s.EndsAgree) (hstate : s'.state = s.state)
    (rails : s.ledger.KeepsRails s'.ledger) : s'.EndsAgree := by
  intro id d hd
  rw [hstate] at hd
  exact (h id d hd).imp_right fun hends => hends.of_keepsRails rails

theorem railEnds_of_terminated {l l' : Ledger} {epoch : Epoch}
    (hstorage : s.ledger.terminate rail epoch = .ok (endEpoch, l))
    (rails : l.KeepsRails l') : endEpoch = 0 ∨ l'.RailEnds rail endEpoch := by
  obtain ⟨r, hr, -, -, hrails⟩ := Ledger.rail?_of_terminate hstorage
  refine or_iff_not_imp_left.mpr fun hne => ?_
  have hends : l.RailEnds rail endEpoch := by
    refine ⟨{ r with endEpoch := endEpoch }, ?_, bne_iff_ne.mpr hne, rfl⟩
    rw [hrails, if_pos rfl]
  exact hends.of_keepsRails rails

theorem EndsAgree.call {c : Call} (h : s.EndsAgree) (hs : Reachable s)
    (truly : s.ReportsTruly (.call ctx c))
    (room : (s.move (.call ctx c)).ledger.rails.size < UInt64.size) :
    (s.move (.call ctx c)).EndsAgree := by
  rw [move_call] at *
  have reaches : s.ledger.Reaches (s.call ctx c).2.ledger := reaches_of_call rfl
  have rails := hs.keepsRails reaches room
  intro id d' hd'
  -- only a report and a termination record an end, and both take it from the ledger
  cases (outcome_of_call hs.indexed rfl).dataSets id d' hd' with
  | kept hd contract hend =>
    rw [hend, DataSet.storageRail_of_contract contract]
    exact (h id _ hd).imp_right fun hends => hends.of_keepsRails rails
  | reported hd contract hcaller hc =>
    rw [DataSet.storageRail_of_contract contract]
    exact .inr ((truly _ _ _ (by rw [hc]) hcaller).of_keepsRails rails)
  | ended hd contract hstorage hegress =>
    rw [DataSet.storageRail_of_contract contract]
    have hbetween := hs.ledger.trans (Ledger.reaches_of_terminate hstorage)
    have room' := Nat.lt_of_le_of_lt hegress.reaches.size_le room
    exact railEnds_of_terminated hstorage
      (hegress.reaches.keepsRails (hbetween.numbered room') room)
  | created _ _ _ hend => exact .inl hend

theorem EndsAgree.move (h : s.EndsAgree) (hs : Reachable s) (truly : s.ReportsTruly m)
    (room : (s.move m).ledger.rails.size < UInt64.size) : (s.move m).EndsAgree := by
  obtain ⟨ctx, c, rfl⟩ | ⟨op, rfl⟩ | ⟨hstate, -⟩ := move_cases (s := s) m
  · exact h.call hs truly room
  · exact h.of_keepsRails rfl (hs.keepsRails reaches_move room)
  · exact h.of_keepsRails hstate (hs.keepsRails reaches_move room)

theorem EndsAgree.run (h : s.EndsAgree) (hs : Reachable s) (faithful : s.Faithful moves)
    (room : (s.run moves).ledger.rails.size < UInt64.size) : (s.run moves).EndsAgree := by
  induction moves generalizing s with
  | nil => exact h
  | cons m moves ih =>
    have room' := Nat.lt_of_le_of_lt (reaches_run (s.move m) moves).size_le room
    exact ih (h.move hs faithful.1 room') hs.move faithful.2 room

theorem sameParties_run (hs : Reachable s) (moves : List Move) :
    s.state.config.SameParties (s.run moves).state.config := by
  induction moves generalizing s with
  | nil => rfl
  | cons m moves ih =>
    apply Config.SameParties.trans _ (ih hs.move)
    obtain ⟨ctx, c, rfl⟩ | ⟨op, rfl⟩ | ⟨hstate, -⟩ := move_cases (s := s) m
    · rw [move_call]
      exact (outcome_of_call hs.indexed rfl).parties
    · rfl
    · rw [hstate]
      rfl

theorem exists_of_deleted
    (hcall : (s.call ctx (.dataSetDeleted id leafCount)).1 = .ok reply) :
    ∃ d, s.state.dataSet? id = some d ∧ d.isPastEnd ctx.epoch = true ∧
      (s.call ctx (.dataSetDeleted id leafCount)).2.state = s.state.withoutDataSet id d ∧
      (s.call ctx (.dataSetDeleted id leafCount)).2.ledger = s.ledger := by
  obtain ⟨-, h⟩ := succeeds_done.mp (call_eq_ok_iff.mp (call_eq_of_answer hcall))
  obtain ⟨-, d, hd, hpast, heq⟩ := succeeds_dataSetDeleted.mp h
  rw [heq]
  exact ⟨d, hd, hpast, rfl, rfl⟩

theorem EndsAgree.ended_of_deleted (h : s.EndsAgree)
    (hcall : (s.call ctx (.dataSetDeleted id leafCount)).1 = .ok reply) :
    ∃ d r, s.state.dataSet? id = some d ∧ s.ledger.rail? d.storageRail = some r ∧
      r.isTerminated = true ∧ r.endEpoch < ctx.epoch := by
  obtain ⟨d, hd, hpast, -, -⟩ := exists_of_deleted hcall
  rw [Deal.isPastEnd, Bool.and_eq_true, Deal.isTerminated, bne_iff_ne, decide_eq_true_iff] at hpast
  obtain ⟨r, hr, hended, hend⟩ := (h id d hd).resolve_left hpast.1
  refine ⟨d, r, hd, hr, hended, ?_⟩
  rw [hend]
  exact hpast.2

theorem Reachable.holderIs_of_deleted (hs : Reachable s)
    (room : s.ledger.rails.size < UInt64.size) (hd : s.state.dataSet? id = some d)
    (hrail : rail ∈ d.railIds) (hstate : s'.state = s.state.withoutDataSet id d)
    (hledger : s'.ledger = s.ledger) : s'.HolderIs rail (fun _ => False) := by
  have hholder := hs.holderIs room hd hrail
  refine ⟨by rw [hledger]; exact hholder.1, ?_⟩
  intro other d' hd' hrail'
  rw [hstate, ServiceState.dataSet?_withoutDataSet] at hd'
  split at hd'
  · contradiction
  · rename_i hne
    have hentry := hholder.2 other d' hd' hrail'
    injection hentry with hids
    rw [(hs.indexed.dataSet other d' hd').id_eq, (hs.indexed.dataSet id d hd).id_eq] at hids
    exact hne hids.symm

theorem Reachable.report_refused (hs : Reachable s) (room : s.ledger.rails.size < UInt64.size)
    (hholder : s.HolderIs rail (fun _ => False)) :
    ∃ e, s.call ctx (.railTerminated rail endEpoch) = (.error e, s) := by
  cases hcall : s.call ctx (.railTerminated rail endEpoch) with
  | mk answer s' =>
  cases answer with
  | error e =>
    have hsame := unchanged_perform rfl (fun id d hd => (hs.indexed.dataSet id d hd).distinct) e s'
      (call_eq_error_iff.mp hcall)
    rw [hsame]
    exact ⟨e, rfl⟩
  | ok reply =>
    obtain ⟨-, h⟩ := succeeds_done.mp (call_eq_ok_iff.mp hcall)
    obtain ⟨-, id, d, howner, -⟩ := succeeds_railTerminated.mp h
    obtain ⟨d', hd', hrail⟩ := ((hs.railsIndexed room).owner_iff rail id).mp howner
    exact (hholder.2 id d' hd' hrail).elim

/--
Service and ledger agree after all moves that start with a new service, if the reports of the ledger
are true when they arrive. The storage rail of a data set is on the terms of the data set, and an
end that is recorded for storage is the end of this rail. A data set is only deleted after this
end, and then reports on its rails are refused and change nothing, whatever data set is created
under the same identifier. The ledger must hold fewer rails than there are numbers for them, as any
does.
-/
theorem termination_agrees {config : Config} {ops : List Ledger.Operation}
    {providers : ProviderRegistry} {sessionKeys : SessionKeys}
    (hnew : Service.new config (.run .empty ops) providers sessionKeys = .ok s)
    (faithful : s.Faithful moves) (room : (s.run moves).ledger.rails.size < UInt64.size) :
    (∀ id d, (s.run moves).state.dataSet? id = some d →
      ∃ r, (s.run moves).ledger.rail? d.storageRail = some r ∧
        r.payer = d.payer ∧ r.payee = d.payee ∧ r.operator = config.serviceAddress ∧
        r.arbiter = config.serviceAddress ∧ r.commissionBps = d.commissionBps ∧
        (d.endEpoch = 0 ∨ d.endEpoch = r.endEpoch ∧ r.endEpoch ≠ 0)) ∧
    (∀ ctx id leafCount reply,
      ((s.run moves).call ctx (.dataSetDeleted id leafCount)).1 = .ok reply →
      ∃ d r, (s.run moves).state.dataSet? id = some d ∧
        (s.run moves).ledger.rail? d.storageRail = some r ∧
        r.isTerminated = true ∧ r.endEpoch < ctx.epoch) ∧
    (∀ before after ctx id leafCount reply d rail,
      moves = before ++ .call ctx (.dataSetDeleted id leafCount) :: after →
      ((s.run before).call ctx (.dataSetDeleted id leafCount)).1 = .ok reply →
      (s.run before).state.dataSet? id = some d → rail ∈ d.railIds →
      ∀ ctx' endEpoch, ∃ e,
        (s.run moves).call ctx' (.railTerminated rail endEpoch) = (.error e, s.run moves)) := by
  have hs : Reachable s := .new hnew
  obtain ⟨-, hinitial⟩ := new_eq_ok_iff.mp hnew
  have hconfig : s.state.config = config := by
    rw [hinitial]
    rfl
  -- there is no data set at first, so nothing to agree on
  have hagree : (s.run moves).EndsAgree := by
    refine EndsAgree.run ?_ hs faithful room
    intro id d hd
    rw [hinitial] at hd
    simp [ServiceState.dataSet?, ServiceState.ofConfig] at hd
  refine ⟨?_, ?_, ?_⟩
  · intro id d hd
    obtain ⟨r, hr, hterms⟩ := (hs.run.contracted room hd).storage
    -- the address of the service is what it was configured as
    have haddress : (s.run moves).state.config.serviceAddress = config.serviceAddress := by
      rw [sameParties_run hs moves, hconfig]
    refine ⟨r, hr, ?_⟩
    rw [hterms, ← haddress]
    refine ⟨rfl, rfl, rfl, rfl, rfl, ?_⟩
    obtain hzero | ⟨r', hr', hended, hend⟩ := hagree id d hd
    · exact .inl hzero
    · rw [hr, Option.some.injEq] at hr'
      rw [hr']
      exact .inr ⟨hend.symm, bne_iff_ne.mp hended⟩
  · intro ctx id leafCount reply hcall
    exact hagree.ended_of_deleted hcall
  · intro before after ctx id leafCount reply d rail hmoves hcall hd hrail ctx' endEpoch
    subst hmoves
    obtain ⟨d', hd', -, hstate, hledger⟩ := exists_of_deleted hcall
    rw [hd, Option.some.injEq] at hd'
    subst hd'
    have hs' : Reachable (s.run before) := hs.run
    apply hs.run.report_refused room
    rw [run_append, run_cons] at room ⊢
    -- after the deletion nobody has the rail, and no later data set gets it
    have room' : (s.run before).ledger.rails.size < UInt64.size :=
      Nat.lt_of_le_of_lt (reaches_move.trans (reaches_run _ after)).size_le room
    exact hs'.move.holderIs_run (hs'.holderIs_of_deleted room' hd hrail hstate hledger) room

/-!
The data set of the sample service ends, and its rail 1 is reported late and twice. Once it is
deleted, somebody else has the data set 1 created again, over rail 4.
-/

def heirKeys : SessionKeys :=
  .login .empty 11 cdnPayer [cdnMessage.kind.typeHash] 1000000

theorem lasts_heirKeys {epoch : Epoch} (h : epoch ≤ 1000000) :
    heirKeys.expiry ⟨11, cdnPayer, cdnMessage.kind.typeHash⟩ ≠ 0 ∧
      epoch ≤ heirKeys.expiry ⟨11, cdnPayer, cdnMessage.kind.typeHash⟩ := by
  have hexpiry : heirKeys.expiry ⟨11, cdnPayer, cdnMessage.kind.typeHash⟩ = 1000000 := by
    simp [heirKeys, SessionKeys.login, SessionKeys.expiry]
  rw [hexpiry]
  exact ⟨by decide, h⟩

def reportedEnding : List Move :=
  [.operate (.terminate 1 20), .call ⟨4, 30⟩ (.railTerminated 1 (20 + epochsPerMonth)),
    .call ⟨4, 40⟩ (.railTerminated 1 (20 + epochsPerMonth))]

def heirPreparation : List Move :=
  [.operate (.deposit 5 11 1000), .operate (.approve 5 11 1 0 500 epochsPerMonth),
    .outside (ProviderRegistry.empty.register 7 8).2 heirKeys]

def deletion : Move :=
  .call ⟨3, 21 + epochsPerMonth⟩ (.dataSetDeleted 1 0)

def vacatedService : Service :=
  cdnService.run (reportedEnding ++ deletion :: heirPreparation)

theorem creationChecked_heir :
    CreationChecked ⟨3, 22 + epochsPerMonth⟩ 1 7 (cdnRequest 11) vacatedService 1 8 [] 0 where
  caller := by decide +kernel
  payer_ne := by decide
  serviceProvider_ne := by decide
  unused := Option.isNone_iff_eq_none.mp (by decide +kernel)
  known := by decide +kernel
  active := by decide +kernel
  approved := by decide +kernel
  payee_eq := by decide +kernel
  entries_eq := rfl
  entries_valid := by decide +kernel
  chosen := ⟨by decide +kernel, by decide +kernel⟩
  signed := ⟨cdnPayer, SigningContext.verify_eq_ok_iff.mpr
    ⟨recoverSigner_cdnSignature, .inr (lasts_heirKeys (by decide))⟩⟩
  funded := by decide +kernel

def recreatedService : Service :=
  vacatedService.withCdnDataSet 11 4 5 6

def heirCreation : Move :=
  .call ⟨3, 22 + epochsPerMonth⟩ (.dataSetCreated 1 7 (cdnRequest 11))

def recreation : List Move :=
  reportedEnding ++ deletion :: heirPreparation ++ [heirCreation]

theorem call_heirCreation :
    vacatedService.call ⟨3, 22 + epochsPerMonth⟩ (.dataSetCreated 1 7 (cdnRequest 11)) =
      (.ok .done, recreatedService) := by
  have hcall := call_cdnRequest creationChecked_heir (by decide +kernel) (by decide +kernel)
    (by decide +kernel) (by decide +kernel)
  rwa [show vacatedService.ledger.lastRail + 1 = 4 by decide +kernel,
    show (storageLedger vacatedService.ledger 11).lastRail + 1 = 5 by decide +kernel,
    show (cacheMissLedger vacatedService.ledger 11).lastRail + 1 = 6 by decide +kernel] at hcall

theorem run_recreation : cdnService.run recreation = recreatedService := by
  rw [recreation, heirCreation, run_append, run_cons, run_nil, move_call]
  show (vacatedService.call _ _).2 = _
  rw [call_heirCreation]

theorem faithful_recreation : emptyCdnService.Faithful (cdnCreation ++ recreation) := by
  rw [faithful_append, run_cdnCreation, recreation, faithful_append, faithful_append]
  refine ⟨⟨nofun, nofun, nofun, nofun, trivial⟩, ⟨⟨nofun, ?_, ?_, trivial⟩,
    ⟨nofun, nofun, nofun, nofun, trivial⟩⟩, ⟨nofun, trivial⟩⟩
  · intro ctx rail endEpoch hmove _
    cases hmove
    decide +kernel
  · intro ctx rail endEpoch hmove _
    cases hmove
    decide +kernel

theorem termination_agrees_recreatedService :
    ∃ d, recreatedService.state.dataSet? 1 = some d ∧ d.payer = 11 ∧
      (∃ r, recreatedService.ledger.rail? d.storageRail = some r ∧ r.payer = 11 ∧
        (d.endEpoch = 0 ∨ d.endEpoch = r.endEpoch ∧ r.endEpoch ≠ 0)) ∧
      ∀ ctx endEpoch, ∃ e,
        recreatedService.call ctx (.railTerminated 1 endEpoch) = (.error e, recreatedService) := by
  have hrun : emptyCdnService.run (cdnCreation ++ recreation) = recreatedService := by
    rw [run_append, run_cdnCreation, run_recreation]
  have hnew : Service.new cdnConfig (.run .empty []) (ProviderRegistry.empty.register 7 8).2
      .empty = .ok emptyCdnService :=
    new_emptyCdnService
  obtain ⟨hagree, -, hstale⟩ := termination_agrees hnew faithful_recreation
    (by rw [hrun]; decide +kernel)
  rw [hrun] at hagree hstale
  have hd : recreatedService.state.dataSet? 1 =
      some (createdDataSet cdnConfig 1 7 (cdnRequest 11) 1 8 [] 0 4 (some 5, some 6)) := by
    show (vacatedService.state.registered _).dataSet? 1 = _
    rw [ServiceState.dataSet?_registered]
    rfl
  refine ⟨_, hd, rfl, ?_, ?_⟩
  · obtain ⟨r, hr, hpayer, -, -, -, -, hend⟩ := hagree 1 _ hd
    exact ⟨r, hr, hpayer, hend⟩
  · have hended : emptyCdnService.run (cdnCreation ++ reportedEnding) =
        cdnService.run reportedEnding := by
      rw [run_append, run_cdnCreation]
    have hdeletion : ((cdnService.run reportedEnding).call ⟨3, 21 + epochsPerMonth⟩
        (.dataSetDeleted 1 0)).1 = .ok .done := by
      decide +kernel
    have hrails : ((cdnService.run reportedEnding).state.dataSet? 1).map (·.railIds) =
        some [1, 2, 3] := by
      decide +kernel
    obtain ⟨d, hd, hids⟩ := Option.map_eq_some_iff.mp hrails
    have hrail : 1 ∈ d.railIds := by
      rw [hids]
      simp
    have hmoves : cdnCreation ++ recreation =
        (cdnCreation ++ reportedEnding) ++ deletion :: (heirPreparation ++ [heirCreation]) := by
      simp [recreation]
    rw [← hended] at hdeletion hd
    exact hstale _ _ _ _ _ _ d 1 hmoves hdeletion hd hrail

end Service

end WarmStorage
