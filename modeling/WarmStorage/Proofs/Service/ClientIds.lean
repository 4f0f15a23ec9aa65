import WarmStorage.Proofs.Service.Replay
import WarmStorage.Proofs.Service.Revisions

/-!
Counted identifiers. Where the service numbers the data sets of each payer, a payer has used up just
the identifiers below its counter. So the next one is free, data sets get the identifiers from zero
on in order, and a deletion frees none.
-/

namespace WarmStorage

open Ledger (bind_eq_error_iff guard_eq_error_iff)

def ReplayKey.clientId? (payer : Address) : ReplayKey → Option UInt256
  | .dataSet other clientId => if other = payer then some clientId else none
  | .nonce .. => none

theorem ReplayKey.clientId?_eq_some_iff {payer : Address} {key : ReplayKey} {clientId : UInt256} :
    key.clientId? payer = some clientId ↔ key = .dataSet payer clientId := by
  cases key with
  | dataSet other otherId =>
    rw [clientId?, ReplayKey.dataSet.injEq]
    split
    · simp [*]
    · simp [*]
  | nonce => simp [clientId?]

theorem UInt256.toNat_ofNat_of_lt {n : Nat} (hlt : n < UInt64.size) :
    (BitVec.ofNat 256 n).toNat = n := by
  rw [UInt64.size] at hlt
  rw [BitVec.toNat_ofNat]
  omega

namespace ServiceState

variable {s s' : ServiceState} {payer : Address} {n : Nat} {clientId : UInt256} {d : DataSet}
  {request : CreationRequest}

/-- The payer has used up the first `n` identifiers and no others. -/
structure Counts (s : ServiceState) (payer : Address) (n : Nat) : Prop where
  next : s.nextClientDataSetId payer = UInt64.ofNat n
  used : ∀ clientId, (s.replay.dataSet? payer clientId).isSome = true ↔ clientId.toNat < n
  le : n ≤ UInt64.size

def chosenClientId (s : ServiceState) (request : CreationRequest) : UInt256 :=
  match s.config.versioning.clientIdScheme with
  | .payerCounter => .ofWord (s.nextClientDataSetId request.payer)
  | .clientNonce => request.clientDataSetId

theorem counts_ofConfig {config : Config} : (ofConfig config).Counts payer 0 := by
  refine ⟨?_, fun clientId => ?_, Nat.zero_le _⟩
  · simp [nextClientDataSetId, ofConfig]
  · simp [ReplayRegistry.dataSet?, ofConfig]

theorem Counts.of_same (h : s.Counts payer n) (same : s.SameNumbers s') : s'.Counts payer n := by
  refine ⟨?_, fun clientId => ?_, h.le⟩
  · rw [nextClientDataSetId, same.payerCounters]
    exact h.next
  · rw [ReplayRegistry.dataSet?, same.clientIds]
    exact h.used clientId

theorem Counts.toNat_next (h : s.Counts payer n) (hlt : n < UInt64.size) :
    (s.nextClientDataSetId payer).toNat = n := by
  rw [h.next]
  exact UInt64.toNat_ofNat_of_lt' hlt

theorem Counts.of_free (h : s.Counts payer n)
    (free : s.replay.dataSet? payer (.ofWord (s.nextClientDataSetId payer)) = none) :
    n < UInt64.size ∧ UInt256.ofWord (s.nextClientDataSetId payer) = BitVec.ofNat 256 n := by
  have hfresh := h.used (.ofWord (s.nextClientDataSetId payer))
  rw [free, Option.isSome_none, UInt256.toNat_ofWord] at hfresh
  have hlt : n < UInt64.size := by
    apply Nat.lt_of_le_of_ne h.le
    -- otherwise the counter has come round to zero, which is used up
    rintro rfl
    have := (s.nextClientDataSetId payer).toNat_lt
    simp only [Bool.false_eq_true, UInt64.size, false_iff] at hfresh
    omega
  refine ⟨hlt, ?_⟩
  rw [UInt256.ofWord, h.toNat_next hlt]

theorem Counts.chosen_free (h : s.Counts request.payer n) (hlt : n < UInt64.size)
    (scheme : s.config.versioning.clientIdScheme = .payerCounter) :
    s.replay.dataSet? request.payer (s.chosenClientId request) = none := by
  rw [← Option.not_isSome_iff_eq_none, h.used, chosenClientId, scheme]
  dsimp only
  rw [UInt256.toNat_ofWord, h.toNat_next hlt]
  exact Nat.lt_irrefl n

theorem nextClientDataSetId_registered
    (scheme : s.config.versioning.clientIdScheme = .payerCounter) :
    (s.registered d).nextClientDataSetId payer =
      if d.payer = payer then s.nextClientDataSetId payer + 1 else s.nextClientDataSetId payer := by
  rw [nextClientDataSetId, registered, scheme]
  dsimp only
  rw [Std.ExtTreeMap.getD_insert]
  simp only [Std.compare_eq_iff_eq]
  split
  · rename_i heq
    rw [heq]
  · rfl

theorem Counts.registered_other (h : s.Counts payer n) (hne : d.payer ≠ payer)
    (scheme : s.config.versioning.clientIdScheme = .payerCounter) :
    (s.registered d).Counts payer n := by
  refine ⟨?_, fun clientId => ?_, h.le⟩
  · rw [nextClientDataSetId_registered scheme, if_neg hne]
    exact h.next
  · rw [← h.used, registered, ReplayRegistry.dataSet?_recordDataSet, if_neg fun heq => hne heq.1]

theorem Counts.registered (h : s.Counts d.payer n)
    (scheme : s.config.versioning.clientIdScheme = .payerCounter)
    (chosen : d.clientDataSetId = BitVec.ofNat 256 n) (hlt : n < UInt64.size) :
    (s.registered d).Counts d.payer (n + 1) := by
  refine ⟨?_, fun clientId => ?_, hlt⟩
  · rw [nextClientDataSetId_registered scheme, if_pos rfl, h.next, UInt64.ofNat_add]
    rfl
  · have hused := h.used clientId
    have hn := UInt256.toNat_ofNat_of_lt hlt
    rw [ServiceState.registered, ReplayRegistry.dataSet?_recordDataSet, chosen]
    split
    · rename_i heq
      rw [← heq.2, hn]
      simp
    · rename_i hne
      have hother : clientId.toNat ≠ n := fun heq =>
        hne ⟨rfl, BitVec.eq_of_toNat_eq (hn.trans heq.symm)⟩
      rw [hused]
      omega

end ServiceState

namespace ServiceM

variable {ctx : CallContext} {id : DataSetId} {s s' : Service}
  {serviceProvider payer other : Address} {request : CreationRequest} {clientId : UInt256}

theorem checkFunding_ne {c : Config} {approval : Approval} {account : Account} {withCdn : Bool}
    {e : ServiceError} (h : c.checkFunding payer approval account withCdn = .error e) :
    ServiceError.clientDataSetIdUsed other clientId ≠ e := by
  unfold Config.checkFunding at h
  split at h
  · cases h
    simp
  · simp only [bind_eq_error_iff, guard_eq_error_iff] at h
    obtain h | ⟨required, -, ⟨-, rfl⟩ | ⟨-, ⟨-, rfl⟩ | ⟨-, ⟨-, rfl⟩ | ⟨-, ⟨-, rfl⟩ | ⟨-, h⟩⟩⟩⟩⟩ := h
    · unfold Config.requiredLockup at h
      grind
    · simp
    · simp
    · simp
    · simp
    · split at h
      · cases h
        simp
      · contradiction

theorem refusedOnlyIf_chooseClientDataSetId :
    RefusedOnlyIf (payer = request.payer ∧ clientId = s.state.chosenClientId request ∧
        (s.state.replay.dataSet? payer clientId).isSome = true)
      (.clientDataSetIdUsed payer clientId) (chooseClientDataSetId request) s := by
  refine spares_state.bind_refusedOnlyIf within_state fun t ht => ?_
  obtain ⟨rfl, -⟩ := succeeds_state.mp ht
  intro s' h
  change Fails (if (s.state.replay.dataSet? request.payer (s.state.chosenClientId request)).isSome
    then _ else _) s _ s' at h
  split at h
  · rename_i hused
    have heq := (fails_throw.mp h).1
    cases heq
    exact ⟨rfl, rfl, hused⟩
  · exact absurd h (total_pure _ _ _)

theorem refusedOnlyIf_dataSetCreated :
    RefusedOnlyIf (payer = request.payer ∧ clientId = s.state.chosenClientId request ∧
        (s.state.replay.dataSet? payer clientId).isSome = true)
      (.clientDataSetIdUsed payer clientId) (dataSetCreated ctx id serviceProvider request) s := by
  have spares_openRail {terms : RailTerms} {period : UInt64} {fixed : TokenAmount} :
      Spares (.clientDataSetIdUsed payer clientId) (openRail terms period fixed) :=
    (spares_ledgerCall (by simp)).bind fun _ =>
      (spares_ledgerChange (by simp)).bind fun _ => total_pure.spares
  have spares_end (d : DataSet) (event : Event) :
      Spares (.clientDataSetIdUsed payer clientId) (register d >>= fun _ => emit event) :=
    (total_modifyState.bind fun _ => total_emit).spares
  refine (spares_requireVerifier (by simp)).bind_refusedOnlyIf within_requireVerifier
    fun _ _ => ?_
  refine .guard (by simp) (.guard (by simp) ?_)
  refine spares_state.bind_refusedOnlyIf within_state fun _ _ => .guard (by simp) ?_
  refine (spares_approvedProvider (by simp) (by simp) (by simp)).bind_refusedOnlyIf
    within_approvedProvider fun provider _ => ?_
  refine spares_get.bind_refusedOnlyIf within_get fun t _ => ?_
  cases t.providers.payee? provider with
  | none => exact (spares_throw (by simp)).refusedOnlyIf
  | some payee =>
    refine spares_config.bind_refusedOnlyIf within_config fun c _ => ?_
    refine (spares_ofExcept (by simp)).bind_refusedOnlyIf within_ofExcept fun entries _ => ?_
    refine (spares_ofExcept (by simp)).bind_refusedOnlyIf within_ofExcept fun _ _ => ?_
    refine refusedOnlyIf_chooseClientDataSetId.bind_spares fun clientId' => ?_
    refine (spares_requireSigned (by simp)).bind fun _ => spares_get.bind fun _ => ?_
    refine (spares_ofExcept fun _ => checkFunding_ne).bind fun _ => spares_openRail.bind fun _ => ?_
    exact Spares.ite
      ((spares_openRail.bind fun _ => spares_openRail.bind fun _ => total_pure.spares).bind
        fun _ => spares_end _ _)
      (total_pure.spares.bind fun _ => spares_end _ _)

end ServiceM

theorem ServiceState.Counts.clientId_eq {s : Service} {request : CreationRequest} {n : Nat}
    {ctx : CallContext} {id : DataSetId} {serviceProvider payee : Address} {provider : ProviderId}
    {entries : Metadata} {clientId : UInt256} (h : s.state.Counts request.payer n)
    (scheme : s.state.config.versioning.clientIdScheme = .payerCounter)
    (checked : ServiceM.CreationChecked ctx id serviceProvider request s provider payee entries
      clientId) : n < UInt64.size ∧ clientId = BitVec.ofNat 256 n := by
  obtain ⟨hchosen, hfree⟩ := checked.chosen
  rw [scheme] at hchosen
  obtain rfl : clientId = .ofWord (s.state.nextClientDataSetId request.payer) := hchosen
  exact h.of_free hfree

namespace Service

open ServiceM

variable {s s' : Service} {m : Move} {moves : List Move} {payer : Address} {n : Nat}
  {clientId : UInt256} {ctx : CallContext} {c : Call} {config : Config}

def clientIdsTaken (s : Service) (payer : Address) (moves : List Move) : List UInt256 :=
  (s.keysTaken moves).filterMap (·.clientId? payer)

def clientIdTaken? (s : Service) (payer : Address) (m : Move) : Option UInt256 :=
  (s.taken? m).bind (·.clientId? payer)

theorem clientIdsTaken_cons : s.clientIdsTaken payer (m :: moves) =
    (s.clientIdTaken? payer m).toList ++ (s.move m).clientIdsTaken payer moves := by
  rw [clientIdsTaken, keysTaken, List.filterMap_append, clientIdTaken?]
  congr 1
  cases s.taken? m with
  | none => rfl
  | some key => cases hkey : key.clientId? payer <;> simp [hkey]

theorem clientIdsTaken_concat : s.clientIdsTaken payer (moves ++ [m]) =
    s.clientIdsTaken payer moves ++ ((s.run moves).clientIdTaken? payer m).toList := by
  rw [clientIdsTaken, keysTaken_append, List.filterMap_append, ← clientIdsTaken, ← clientIdsTaken,
    clientIdsTaken_cons]
  exact congrArg _ (List.append_nil _)

theorem clientIdTaken?_eq_some_iff : s.clientIdTaken? payer m = some clientId ↔
    s.state.replay.dataSet? payer clientId = none ∧
      ((s.move m).state.replay.dataSet? payer clientId).isSome = true := by
  have htakes := takes_move (s := s) (m := m)
  have hholds : (s.move m).state.replay.holds (.dataSet payer clientId) = true ↔
      s.state.replay.holds (.dataSet payer clientId) = true ∨
        s.taken? m = some (.dataSet payer clientId) := htakes.holds_iff
  have hmem : s.clientIdTaken? payer m = some clientId ↔
      s.taken? m = some (.dataSet payer clientId) := by
    simp only [clientIdTaken?, Option.bind_eq_some_iff, ReplayKey.clientId?_eq_some_iff,
      exists_eq_right]
  rw [hmem, ← Option.not_isSome_iff_eq_none]
  change (_ ↔ ¬ s.state.replay.holds (.dataSet payer clientId) = true ∧
    (s.move m).state.replay.holds (.dataSet payer clientId) = true)
  constructor
  · intro heq
    rw [heq] at htakes
    exact ⟨by simp [htakes.free], hholds.mpr (.inr heq)⟩
  · rintro ⟨hfree, hused⟩
    exact (hholds.mp hused).resolve_left hfree

theorem clientIdTaken?_eq_none (h : s.state.Counts payer n)
    (h' : (s.move m).state.Counts payer n) : s.clientIdTaken? payer m = none := by
  rw [Option.eq_none_iff_forall_ne_some]
  intro clientId hsome
  obtain ⟨hfree, hused⟩ := clientIdTaken?_eq_some_iff.mp hsome
  rw [h'.used, ← h.used, hfree] at hused
  contradiction

theorem counts_move (h : s.state.Counts payer n)
    (scheme : s.state.config.versioning.clientIdScheme = .payerCounter) :
    s.clientIdTaken? payer m = none ∧ (s.move m).state.Counts payer n ∨
    s.clientIdTaken? payer m = some (BitVec.ofNat 256 n) ∧
      (s.move m).state.Counts payer (n + 1) := by
  have of_counts (h' : (s.move m).state.Counts payer n) :
      s.clientIdTaken? payer m = none ∧ (s.move m).state.Counts payer n :=
    ⟨clientIdTaken?_eq_none h h', h'⟩
  obtain ⟨ctx, c, rfl⟩ | ⟨op, rfl⟩ | ⟨hstate, -⟩ := move_cases (s := s) m
  · cases (revises_of_call rfl : Revises ctx c s (s.call ctx c).2) with
    | revised numbers dataSets => exact .inl (of_counts (h.of_same numbers))
    | @created id serviceProvider payee request provider entries clientId storageRail egress call
        checked rails state =>
      by_cases hpayer : request.payer = payer
      · subst hpayer
        obtain ⟨hlt, rfl⟩ := h.clientId_eq scheme checked
        have hcounts : (s.move (.call ctx c)).state.Counts request.payer (n + 1) := by
          rw [move_call, state]
          exact h.registered scheme rfl hlt
        refine .inr ⟨clientIdTaken?_eq_some_iff.mpr ⟨checked.chosen.2, ?_⟩, hcounts⟩
        rw [hcounts.used, UInt256.toNat_ofNat_of_lt hlt]
        exact Nat.lt_succ_self n
      · refine .inl (of_counts ?_)
        rw [move_call, state]
        exact h.registered_other hpayer scheme
  · exact .inl (of_counts h)
  · refine .inl (of_counts ?_)
    rw [hstate]
    exact h

theorem counts_run (moves : List Move) (h : s.state.Counts payer n)
    (scheme : s.state.config.versioning.clientIdScheme = .payerCounter) :
    s.clientIdsTaken payer moves = (List.range' n (s.clientIdsTaken payer moves).length).map
        (BitVec.ofNat 256) ∧
      (s.run moves).state.Counts payer (n + (s.clientIdsTaken payer moves).length) := by
  induction moves generalizing s n with
  | nil => exact ⟨rfl, h⟩
  | cons m moves ih =>
    have scheme' : (s.move m).state.config.versioning.clientIdScheme = .payerCounter := by
      rw [adjusts_of_move.versioning_eq, scheme]
    rw [clientIdsTaken_cons, run_cons]
    obtain ⟨htaken, hmove⟩ | ⟨htaken, hmove⟩ := counts_move (m := m) h scheme
    · rw [htaken, Option.toList_none, List.nil_append]
      exact ih hmove scheme'
    · obtain ⟨hids, hrun⟩ := ih hmove scheme'
      rw [htaken, Option.toList_some, List.singleton_append, List.length_cons]
      constructor
      · rw [List.range'_succ, List.map_cons]
        congr 1
      · rw [Nat.add_right_comm] at hrun
        exact hrun

theorem clientId_of_created {id : DataSetId} {serviceProvider : Address}
    {request : CreationRequest} {reply : Reply} (h : s.state.Counts request.payer n)
    (scheme : s.state.config.versioning.clientIdScheme = .payerCounter)
    (hcall : s.call ctx (.dataSetCreated id serviceProvider request) = (.ok reply, s')) :
    ∃ d, s'.state.dataSet? id = some d ∧ d.payer = request.payer ∧
      d.clientDataSetId = BitVec.ofNat 256 n ∧
      s.clientIdTaken? request.payer (.call ctx (.dataSetCreated id serviceProvider request)) =
        some d.clientDataSetId := by
  obtain ⟨-, hcreated⟩ := succeeds_done.mp (call_eq_ok_iff.mp hcall)
  obtain ⟨provider, payee, entries, clientId, storageRail, egress, l, checked, -, rfl⟩ :=
    succeeds_dataSetCreated.mp hcreated
  obtain ⟨hlt, rfl⟩ := h.clientId_eq scheme checked
  refine ⟨_, ServiceState.dataSet?_registered.trans (if_pos rfl), rfl, rfl, ?_⟩
  refine clientIdTaken?_eq_some_iff.mpr ⟨checked.chosen.2, ?_⟩
  rw [move_call, hcall]
  exact ((h.registered scheme rfl hlt).used _).mpr
    (Nat.lt_succ_of_le (Nat.le_of_eq (UInt256.toNat_ofNat_of_lt hlt)))

/--
Where the service counts the data sets of each payer, they get the identifiers from zero on, one
after the other and whatever identifiers requests ask for. Identifiers stay used up, also when the
data set is deleted. As long as the counter does not come round, a payer has used up the identifiers
below it and no others, and no creation is refused because its identifier is used up.
-/
theorem counted_client_ids {l : Ledger} {providers : ProviderRegistry} {sessionKeys : SessionKeys}
    (h : Service.new config l providers sessionKeys = .ok s)
    (scheme : config.versioning.clientIdScheme = .payerCounter) (moves : List Move)
    (payer : Address) :
    s.clientIdsTaken payer moves =
      (List.range (s.clientIdsTaken payer moves).length).map (BitVec.ofNat 256) ∧
    (∀ ctx id serviceProvider request reply s', request.payer = payer →
      (s.run moves).call ctx (.dataSetCreated id serviceProvider request) = (.ok reply, s') →
      ∃ d, s'.state.dataSet? id = some d ∧ d.payer = payer ∧
        d.clientDataSetId = BitVec.ofNat 256 (s.clientIdsTaken payer moves).length ∧
        s.clientIdsTaken payer (moves ++ [.call ctx (.dataSetCreated id serviceProvider request)]) =
          s.clientIdsTaken payer moves ++ [d.clientDataSetId]) ∧
    (∀ clientId id moves', (s.run moves).state.replay.dataSet? payer clientId = some id →
      (s.run (moves ++ moves')).state.replay.dataSet? payer clientId = some id) ∧
    ((s.clientIdsTaken payer moves).length < UInt64.size →
      ((s.run moves).state.nextClientDataSetId payer).toNat =
        (s.clientIdsTaken payer moves).length ∧
      (∀ clientId, ((s.run moves).state.replay.dataSet? payer clientId).isSome = true ↔
        clientId.toNat < ((s.run moves).state.nextClientDataSetId payer).toNat) ∧
      ∀ ctx id serviceProvider request clientId,
        ((s.run moves).call ctx (.dataSetCreated id serviceProvider request)).1 ≠
          .error (.clientDataSetIdUsed payer clientId)) := by
  obtain ⟨hnew, -⟩ := state_of_new h
  have hstart : s.state.Counts payer 0 := by
    rw [hnew]
    exact ServiceState.counts_ofConfig
  have hscheme : s.state.config.versioning.clientIdScheme = .payerCounter := by
    rw [hnew]
    exact scheme
  obtain ⟨hids, hcounts⟩ := counts_run moves hstart hscheme
  rw [← List.range_eq_range'] at hids
  rw [Nat.zero_add] at hcounts
  rw [← versioning_run s moves] at hscheme
  refine ⟨hids, ?_, fun clientId id moves' hid => ?_, fun hlt => ?_⟩
  · rintro ctx id serviceProvider request reply s' rfl hcall
    obtain ⟨d, hd, hpayer, hid, htaken⟩ := clientId_of_created hcounts hscheme hcall
    refine ⟨d, hd, hpayer, hid, ?_⟩
    rw [clientIdsTaken_concat, htaken, Option.toList_some]
  · rw [run_append]
    exact dataSet?_run hid
  have hnext := hcounts.toNat_next hlt
  refine ⟨hnext, fun clientId => ?_, fun ctx id serviceProvider request clientId hrefused => ?_⟩
  · rw [hcounts.used, hnext]
  · have hfails := fails_done.mp (call_eq_error_iff.mp (call_eq_of_answer hrefused))
    obtain ⟨rfl, rfl, hused⟩ := refusedOnlyIf_dataSetCreated _ hfails
    rw [hcounts.chosen_free hlt hscheme] at hused
    contradiction

/-!
The service of `sampleService`, but counting. The request asks for the identifier 5 and gets 0.
-/

def countingConfig : Config :=
  { sampleConfig with versioning := { clientIdScheme := .payerCounter } }

def countingService : Service :=
  { sampleService with state := .ofConfig countingConfig }

theorem new_countingService :
    Service.new countingConfig sampleLedger (ProviderRegistry.empty.register 7 8).2 .empty =
      .ok countingService := by
  have hvalid : countingConfig.validate = .ok () := rfl
  exact new_eq_ok_iff.mpr ⟨hvalid, rfl⟩

def approvedCountingService : Service :=
  countingService.move (.call ⟨2, 10⟩ (.approveProvider 1))

def countedRequest : CreationRequest :=
  { sampleRequest with clientDataSetId := 5 }

theorem creationChecked_countedRequest :
    CreationChecked ⟨3, 10⟩ 1 7 countedRequest approvedCountingService 1 8 [] 0 where
  caller := by decide +kernel
  payer_ne := by decide
  serviceProvider_ne := by decide
  unused := Option.isNone_iff_eq_none.mp (by decide +kernel)
  known := by decide +kernel
  active := by decide +kernel
  approved := by decide +kernel
  payee_eq := by decide +kernel
  entries_eq := rfl
  entries_valid := rfl
  chosen := ⟨by decide +kernel, by decide +kernel⟩
  signed := ⟨samplePayer, verify_sampleMessage⟩
  funded := by rfl

def countedService : Service :=
  { approvedCountingService with
    state := approvedCountingService.state.registered
      (createdDataSet countingConfig 1 7 countedRequest 1 8 [] 0 1 (none, none))
    ledger := createdLedger
    events := approvedCountingService.events ++
      [.dataSetCreated 1 1 1 none none samplePayer 7 8 []] }

theorem call_countedRequest :
    approvedCountingService.call ⟨3, 10⟩ (.dataSetCreated 1 7 countedRequest) =
      (.ok .done, countedService) := by
  rw [call_eq_ok_iff]
  refine succeeds_done.mpr ⟨rfl, succeeds_dataSetCreated.mpr ?_⟩
  exact ⟨1, 8, [], 0, 1, (none, none), createdLedger, creationChecked_countedRequest,
    railsOpened_createdLedger, rfl⟩

def countedDeletion : List Move :=
  [.call ⟨samplePayer, 20⟩ (.terminateService 1),
    .call ⟨3, 21 + epochsPerMonth⟩ (.dataSetDeleted 1 0)]

def countedCreation : List Move :=
  .call ⟨2, 10⟩ (.approveProvider 1) :: .call ⟨3, 10⟩ (.dataSetCreated 1 7 countedRequest) ::
    countedDeletion

theorem move_countedRequest :
    approvedCountingService.move (.call ⟨3, 10⟩ (.dataSetCreated 1 7 countedRequest)) =
      countedService := by
  rw [move_call, call_countedRequest]

theorem run_countedCreation :
    countingService.run countedCreation = countedService.run countedDeletion := by
  rw [countedCreation, run_cons, run_cons]
  change (approvedCountingService.move _).run _ = _
  rw [move_countedRequest]

theorem clientIdsTaken_countedCreation :
    countingService.clientIdsTaken samplePayer countedCreation = [0] := by
  have happrove :
      countingService.clientIdTaken? samplePayer (.call ⟨2, 10⟩ (.approveProvider 1)) = none := by
    decide +kernel
  have hcreate : approvedCountingService.clientIdTaken? samplePayer
      (.call ⟨3, 10⟩ (.dataSetCreated 1 7 countedRequest)) = some 0 := by
    rw [clientIdTaken?, taken?, call_countedRequest]
    decide +kernel
  have hdelete : countedService.clientIdsTaken samplePayer countedDeletion = [] := by
    decide +kernel
  rw [countedCreation, clientIdsTaken_cons, happrove, clientIdsTaken_cons]
  change _ ++ ((approvedCountingService.clientIdTaken? _ _).toList ++
    (approvedCountingService.move _).clientIdsTaken _ _) = _
  rw [hcreate, move_countedRequest, hdelete]
  rfl

/-- The identifier of the data set that was deleted stays used up, and the next one is free. -/
theorem counted_client_ids_countedCreation :
    (countingService.run countedCreation).state.dataSet? 1 = none ∧
    ((countingService.run countedCreation).state.nextClientDataSetId samplePayer).toNat = 1 ∧
    (∀ clientId, ((countingService.run countedCreation).state.replay.dataSet? samplePayer
      clientId).isSome = true ↔ clientId.toNat < 1) ∧
    ∀ ctx id serviceProvider request clientId,
      ((countingService.run countedCreation).call ctx
        (.dataSetCreated id serviceProvider request)).1 ≠
          .error (.clientDataSetIdUsed samplePayer clientId) := by
  have hdeleted : (countedService.run countedDeletion).state.dataSet? 1 = none :=
    Option.isNone_iff_eq_none.mp (by decide +kernel)
  obtain ⟨-, -, -, hcounted⟩ :=
    counted_client_ids new_countingService rfl countedCreation samplePayer
  rw [clientIdsTaken_countedCreation] at hcounted
  obtain ⟨hnext, hused, hfree⟩ := hcounted (by decide)
  refine ⟨?_, hnext, fun clientId => ?_, hfree⟩
  · rw [run_countedCreation]
    exact hdeleted
  · rw [hused, hnext]
    rfl

end Service

end WarmStorage
