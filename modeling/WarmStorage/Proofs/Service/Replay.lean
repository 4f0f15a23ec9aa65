import WarmStorage.Proofs.Service.Index
import WarmStorage.Proofs.Service.Run

/-!
Protection against replays over a whole run. What a payer uses up is a key: an identifier for a data
set or a nonce. A successful creation or addition takes one key, which was free before, and nothing
else touches the registry. So the registry holds the keys that were taken in the run so far, each of
which was taken once; deletions and restarts change nothing about that.
-/

namespace WarmStorage

inductive ReplayKey where
  | dataSet (payer : Address) (clientDataSetId : UInt256)
  | nonce (payer : Address) (nonce : UInt256)
deriving DecidableEq, Repr

namespace ReplayRegistry

def holds (r : ReplayRegistry) : ReplayKey → Bool
  | .dataSet payer clientDataSetId => (r.dataSet? payer clientDataSetId).isSome
  | .nonce payer nonce => (r.nonce? payer nonce).isSome

inductive Takes (r : ReplayRegistry) : Option ReplayKey → ReplayRegistry → Prop where
  | nothing : Takes r none r
  | dataSet {payer : Address} {clientId : UInt256} {id : DataSetId}
      (free : r.dataSet? payer clientId = none) :
      Takes r (some (.dataSet payer clientId)) (r.recordDataSet payer clientId id)
  | nonce {payer : Address} {nonce : UInt256} {use : NonceUse}
      (free : r.nonce? payer nonce = none) :
      Takes r (some (.nonce payer nonce)) (r.recordNonce payer nonce use)

variable {r r' : ReplayRegistry} {payer payer' : Address} {clientId nonce nonce' : UInt256}
  {id : DataSetId} {use : NonceUse} {key : ReplayKey} {taken : Option ReplayKey}

theorem nonce?_recordNonce : (r.recordNonce payer nonce use).nonce? payer' nonce' =
    if payer = payer' ∧ nonce = nonce' then some use else r.nonce? payer' nonce' := by
  show ((r.nonces.insert payer ((r.nonces.getD payer ∅).insert nonce use))[payer']?).bind
    (·[nonce']?) = if _ then _ else (r.nonces[payer']?).bind (·[nonce']?)
  rw [Std.ExtTreeMap.getElem?_insert]
  simp only [Std.compare_eq_iff_eq]
  by_cases hpayer : payer = payer'
  · subst hpayer
    rw [if_pos rfl, Option.bind_some, Std.ExtTreeMap.getElem?_insert,
      Std.ExtTreeMap.getD_eq_getD_getElem?]
    simp only [Std.compare_eq_iff_eq, true_and]
    cases r.nonces[payer]? with
    | none => simp
    | some used => rfl
  · rw [if_neg hpayer, if_neg fun h => hpayer h.1]

@[simp]
theorem nonce?_recordDataSet :
    (r.recordDataSet payer clientId id).nonce? payer' nonce = r.nonce? payer' nonce :=
  rfl

@[simp]
theorem dataSet?_recordNonce :
    (r.recordNonce payer nonce use).dataSet? payer' clientId = r.dataSet? payer' clientId :=
  rfl

theorem Takes.free (h : Takes r (some key) r') : r.holds key = false := by
  cases h with
  | dataSet free => rw [holds, free, Option.isSome_none]
  | nonce free => rw [holds, free, Option.isSome_none]

theorem Takes.holds_iff (h : Takes r taken r') :
    r'.holds key = true ↔ r.holds key = true ∨ key ∈ taken := by
  cases h with
  | nothing => simp
  | @dataSet payer clientId id free =>
    cases key with
    | dataSet payer' clientId' =>
      rw [holds, holds, dataSet?_recordDataSet, Option.mem_some_iff, ReplayKey.dataSet.injEq]
      split
      · simp [*]
      · simp [*]
    | nonce payer' nonce' => simp [holds]
  | @nonce payer nonce use free =>
    cases key with
    | dataSet payer' clientId' => simp [holds]
    | nonce payer' nonce' =>
      rw [holds, holds, nonce?_recordNonce, Option.mem_some_iff, ReplayKey.nonce.injEq]
      split
      · simp [*]
      · simp [*]

theorem Takes.holds_eq_false_iff (h : Takes r taken r') :
    r'.holds key = false ↔ r.holds key = false ∧ key ∉ taken := by
  rw [← Bool.not_eq_true, h.holds_iff, not_or, Bool.not_eq_true]

theorem Takes.dataSet?_eq (h : Takes r taken r') (hid : r.dataSet? payer clientId = some id) :
    r'.dataSet? payer clientId = some id := by
  cases h with
  | nothing => exact hid
  | dataSet free =>
    rw [dataSet?_recordDataSet, if_neg]
    · exact hid
    · rintro ⟨rfl, rfl⟩
      rw [free] at hid
      contradiction
  | nonce free => exact hid

theorem Takes.nonce?_eq (h : Takes r taken r') (huse : r.nonce? payer nonce = some use) :
    r'.nonce? payer nonce = some use := by
  cases h with
  | nothing => exact huse
  | dataSet free => exact huse
  | nonce free =>
    rw [nonce?_recordNonce, if_neg]
    · exact huse
    · rintro ⟨rfl, rfl⟩
      rw [free] at huse
      contradiction

end ReplayRegistry

def Call.takesKey : Call → Bool
  | .dataSetCreated .. => true
  | .piecesAdded .. => true
  | _ => false

namespace Service

open ReplayRegistry (Takes)

def keyTaken? (s : Service) : Call → Option ReplayKey
  | .dataSetCreated id _ _ =>
    (s.state.dataSet? id).map fun d => .dataSet d.payer d.clientDataSetId
  | .piecesAdded id _ _ request =>
    (s.state.dataSet? id).map fun d => .nonce d.payer request.nonce
  | _ => none

/-- The key that a move takes. Only calls that succeed take one. -/
def taken? (s : Service) : Move → Option ReplayKey
  | .call ctx c =>
    match s.call ctx c with
    | (.ok _, s') => s'.keyTaken? c
    | (.error _, _) => none
  | _ => none

def keysTaken (s : Service) : List Move → List ReplayKey
  | [] => []
  | m :: moves => (s.taken? m).toList ++ (s.move m).keysTaken moves

open ServiceM

variable {s s' : Service} {ctx : CallContext} {c : Call} {r : Except ServiceError Reply}
  {reply : Reply} {m : Move} {moves : List Move} {key : ReplayKey} {payer : Address}
  {clientId nonce : UInt256} {id : DataSetId} {use : NonceUse}

theorem takes_of_same (hstate : s'.state = s.state) :
    Takes s.state.replay none s'.state.replay := by
  rw [hstate]
  exact .nothing

theorem OwnerSets.keyTaken? {config : Config} {approved : Std.ExtTreeSet ProviderId} {event : Event}
    (h : s.OwnerSets c config approved event) : s'.keyTaken? c = none := by
  cases h
  all_goals rfl

theorem takes_of_succeeds (h : Succeeds (perform ctx c) s reply s') :
    Takes s.state.replay (s'.keyTaken? c) s'.state.replay := by
  cases performed_of_succeeds h with
  | created checked =>
    dsimp only [keyTaken?]
    rw [ServiceState.dataSet?_registered, createdDataSet, if_pos rfl]
    exact .dataSet checked.chosen.2
  | extended _ _ _ _ free =>
    dsimp only [keyTaken?]
    rw [ServiceState.dataSet?, Std.ExtTreeMap.getElem?_insert_self]
    exact .nonce free
  | owner _ sets =>
    rw [sets.keyTaken?]
    exact .nothing
  | _ => exact .nothing

theorem exists_keyTaken (h : Succeeds (perform ctx c) s reply s') (hc : c.takesKey = true) :
    ∃ key, s'.keyTaken? c = some key := by
  cases performed_of_succeeds h with
  | created => simp [keyTaken?, ServiceState.dataSet?_registered, createdDataSet]
  | extended => simp [keyTaken?, ServiceState.dataSet?]
  | owner _ sets =>
    cases sets
    all_goals contradiction
  | _ => contradiction

theorem takes_move : Takes s.state.replay (s.taken? m) (s.move m).state.replay := by
  cases m with
  | call ctx c =>
    obtain ⟨r, s', hcall⟩ : ∃ r s', s.call ctx c = (r, s') := ⟨_, _, rfl⟩
    dsimp only [taken?, move]
    rw [hcall]
    cases r with
    | ok reply => exact takes_of_succeeds (call_eq_ok_iff.mp hcall)
    | error e =>
      have hrefused := refusedWithin_perform _ _ _ (call_eq_error_iff.mp hcall)
      exact takes_of_same hrefused.state
  | operate op => exact .nothing
  | outside providers sessionKeys => exact .nothing
  | takeEvents => exact .nothing
  | restart sessionKeys =>
    obtain heq | heq := move_restart s sessionKeys
    · rw [heq]
      exact .nothing
    · rw [heq]
      exact .nothing

theorem holds_run_iff : (s.run moves).state.replay.holds key = true ↔
    s.state.replay.holds key = true ∨ key ∈ s.keysTaken moves := by
  induction moves generalizing s with
  | nil => simp [keysTaken]
  | cons m moves ih =>
    rw [run_cons, ih, takes_move.holds_iff, keysTaken, List.mem_append, Option.mem_toList,
      Option.mem_def, or_assoc]

theorem keysTaken_append {moves' : List Move} :
    s.keysTaken (moves ++ moves') = s.keysTaken moves ++ (s.run moves).keysTaken moves' := by
  induction moves generalizing s with
  | nil => rfl
  | cons m moves ih => rw [List.cons_append, keysTaken, keysTaken, ih, run_cons, List.append_assoc]

theorem dataSet?_run (h : s.state.replay.dataSet? payer clientId = some id) :
    (s.run moves).state.replay.dataSet? payer clientId = some id := by
  induction moves generalizing s with
  | nil => exact h
  | cons m moves ih => exact ih (takes_move.dataSet?_eq h)

theorem nonce?_run (h : s.state.replay.nonce? payer nonce = some use) :
    (s.run moves).state.replay.nonce? payer nonce = some use := by
  induction moves generalizing s with
  | nil => exact h
  | cons m moves ih => exact ih (takes_move.nonce?_eq h)

theorem nodup_keysTaken :
    (s.keysTaken moves).Nodup ∧ ∀ key ∈ s.keysTaken moves, s.state.replay.holds key = false := by
  induction moves generalizing s with
  | nil => simp [keysTaken]
  | cons m moves ih =>
    obtain ⟨hnodup, hfree⟩ := ih (s := s.move m)
    have htakes := takes_move (s := s) (m := m)
    -- what is taken later is still free after the first move, so it is not what this move took
    have hlater : ∀ key ∈ (s.move m).keysTaken moves,
        s.state.replay.holds key = false ∧ key ∉ s.taken? m :=
      fun key hkey => htakes.holds_eq_false_iff.mp (hfree key hkey)
    rw [keysTaken]
    cases hm : s.taken? m with
    | none => exact ⟨hnodup, fun key hkey => (hlater key hkey).1⟩
    | some taken =>
      rw [hm] at htakes hlater
      rw [Option.toList_some, List.singleton_append, List.nodup_cons, List.forall_mem_cons]
      refine ⟨⟨?_, hnodup⟩, htakes.free, fun key hkey => (hlater key hkey).1⟩
      intro hmem
      exact (hlater taken hmem).2 rfl

/--
Over a whole run of a new service each key is taken at most once, and the registry holds exactly the
keys that were taken; entries for identifiers and for nonces never change. A call that is refused
takes no key and leaves the counters alone, since it leaves the whole state alone; a creation or an
addition that succeeds takes a key that was free.
-/
theorem each_key_taken_once {config : Config} {l : Ledger} {providers : ProviderRegistry}
    {sessionKeys : SessionKeys} (h : Service.new config l providers sessionKeys = .ok s)
    (moves : List Move) :
    (s.keysTaken moves).Nodup ∧
    (∀ key, (s.run moves).state.replay.holds key = true ↔ key ∈ s.keysTaken moves) ∧
    (∀ moves' payer clientId id, (s.run moves).state.replay.dataSet? payer clientId = some id →
      (s.run (moves ++ moves')).state.replay.dataSet? payer clientId = some id) ∧
    (∀ moves' payer nonce use, (s.run moves).state.replay.nonce? payer nonce = some use →
      (s.run (moves ++ moves')).state.replay.nonce? payer nonce = some use) ∧
    (∀ ctx c e s', (s.run moves).call ctx c = (.error e, s') →
      s'.state = (s.run moves).state) ∧
    ∀ ctx c reply s', (s.run moves).call ctx c = (.ok reply, s') → c.takesKey = true →
      ∃ key, s'.keyTaken? c = some key ∧ (s.run moves).state.replay.holds key = false := by
  refine ⟨nodup_keysTaken.1, fun key => ?_, ?_, ?_, ?_, ?_⟩
  · obtain ⟨-, rfl⟩ := new_eq_ok_iff.mp h
    rw [holds_run_iff]
    cases key with
    | dataSet payer clientId =>
      simp [ReplayRegistry.holds, ReplayRegistry.dataSet?, ServiceState.ofConfig]
    | nonce payer nonce =>
      simp [ReplayRegistry.holds, ReplayRegistry.nonce?, ServiceState.ofConfig]
  · intro moves' payer clientId id hid
    rw [run_append]
    exact dataSet?_run hid
  · intro moves' payer nonce use huse
    rw [run_append]
    exact nonce?_run huse
  · intro ctx c e s' hcall
    exact (refusedWithin_perform _ _ _ (call_eq_error_iff.mp hcall)).state
  · intro ctx c reply s' hcall hc
    have hsucceeds := call_eq_ok_iff.mp hcall
    obtain ⟨key, hkey⟩ := exists_keyTaken hsucceeds hc
    have htakes := takes_of_succeeds hsucceeds
    rw [hkey] at htakes
    exact ⟨key, hkey, htakes.free⟩

def replayedCreation : List Move :=
  [.call ⟨2, 10⟩ (.approveProvider 1), .call ⟨3, 10⟩ (.dataSetCreated 1 7 sampleRequest),
    .restart .empty, .call ⟨3, 11⟩ (.dataSetCreated 2 7 sampleRequest)]

theorem keysTaken_replayedCreation :
    (sampleService.keysTaken replayedCreation).Nodup ∧
    sampleService.keysTaken replayedCreation = [.dataSet samplePayer 0] ∧
    (sampleService.run replayedCreation).state.replay.holds (.dataSet samplePayer 0) = true := by
  have happrove : sampleService.move (.call ⟨2, 10⟩ (.approveProvider 1)) = approvedService := rfl
  have hcreate : approvedService.move (.call ⟨3, 10⟩ (.dataSetCreated 1 7 sampleRequest)) =
      createdService := by
    rw [move_call, call_sampleRequest]
  have hrestart : createdService.move (.restart .empty) =
      { createdService with sessionKeys := .empty, events := [] } :=
    move_restart_of_valid rfl
  have hkeys : sampleService.keysTaken replayedCreation = [.dataSet samplePayer 0] := by
    have happroveKey : sampleService.taken? (.call ⟨2, 10⟩ (.approveProvider 1)) = none := by
      decide +kernel
    have hcreateKey : approvedService.taken?
        (.call ⟨3, 10⟩ (.dataSetCreated 1 7 sampleRequest)) = some (.dataSet samplePayer 0) := by
      rw [taken?, call_sampleRequest]
      decide +kernel
    have hagain : Service.taken? { createdService with sessionKeys := .empty, events := [] }
        (.call ⟨3, 11⟩ (.dataSetCreated 2 7 sampleRequest)) = none := by
      decide +kernel
    rw [replayedCreation, keysTaken, happroveKey, happrove, keysTaken, hcreateKey, hcreate,
      keysTaken, hrestart, keysTaken, hagain]
    rfl
  obtain ⟨hnodup, hholds, -⟩ := each_key_taken_once new_sampleService replayedCreation
  refine ⟨hnodup, hkeys, ?_⟩
  rw [hholds, hkeys]
  exact List.mem_singleton_self _

end Service

end WarmStorage
