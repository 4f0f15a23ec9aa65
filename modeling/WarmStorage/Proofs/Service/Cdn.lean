import WarmStorage.Proofs.Service.Conservation
import WarmStorage.Proofs.Service.Metadata
import WarmStorage.Proofs.Service.Termination

/-!
The marks of the CDN add-on. That a data set has it is kept as a flag, in its egress rails and,
where the add-on is asked for by metadata, as an entry. The end of the service takes the flag and
the entry away and leaves the rails, so the rails tell of the add-on only until then. That an end
can be told from none rests on the lockup of the storage rail, which keeps its end from being epoch
zero.
-/

namespace WarmStorage

def Ledger.Operation.keepsLockups : Ledger.Operation → Bool
  | .modifyLockup _ period _ => period != 0
  | _ => true

def Move.keepsLockups : Move → Bool
  | .operate op => op.keepsLockups
  | _ => true

def Rail.StaysHeld (r r' : Rail) : Prop :=
  r.lockupPeriod ≠ 0 → r'.lockupPeriod ≠ 0

instance : Std.Refl Rail.StaysHeld where
  refl _ := id

namespace Ledger

variable {l l' : Ledger} {op : Operation} {answer : Answer}

theorem KeepsPeriods.staysHeld (h : l.KeepsPeriods l') : l.Keeps Rail.StaysHeld l' := by
  intro id r hr
  obtain ⟨r', hr', hsame⟩ := h id r hr
  refine ⟨r', hr', fun hheld => ?_⟩
  rw [hsame]
  exact hheld

theorem staysHeld_of_perform (numbered : l.Numbered) (h : l.perform op = .ok (answer, l'))
    (hop : op.keepsLockups = true) : l.Keeps Rail.StaysHeld l' := by
  cases performed_of_perform h with
  | deposited => exact .of_rails rfl
  | approved => exact .of_rails rfl
  | opened hcreate =>
    have hrails := rail?_of_createRail hcreate
    obtain ⟨-, rfl, -⟩ := createRail_eq_ok_iff.mp hcreate
    exact .open numbered.rail?_next hrails
  | held hmodify =>
    obtain ⟨r, hr, -, hrails⟩ := rail?_of_modifyLockup hmodify
    exact .replace hr hrails fun _ => bne_iff_ne.mp hop
  | paid hmodify => exact (keepsPeriods_of_modifyPayment hmodify).staysHeld
  | ended hterminate => exact (keepsPeriods_of_terminate hterminate).staysHeld

theorem staysHeld_operate (numbered : l.Numbered) (hop : op.keepsLockups = true) :
    l.Keeps Rail.StaysHeld (l.operate op).2 := by
  unfold operate
  split
  · rename_i hperform
    exact staysHeld_of_perform numbered hperform hop
  · exact .refl

end Ledger

namespace DataSet

variable {d d' : DataSet} {flag : CdnFlag}

/-- The flag agrees with the rails and with the entry, also after the end of the service. -/
structure Marked (flag : CdnFlag) (d : DataSet) : Prop where
  rails : d.withCdn = true → d.cacheMissRail.isSome = true ∧ d.cdnRail.isSome = true
  entry : flag = .metadataKey → (d.withCdn = true ↔ d.metadata.hasKey withCdnKey = true)

def Attached (d : DataSet) : Prop :=
  d.isTerminated = false →
    (d.cacheMissRail.isSome = true ↔ d.withCdn = true) ∧
    (d.cdnRail.isSome = true ↔ d.withCdn = true)

theorem Marked.withCdn_eq_false (h : d.Marked flag) (hrails : d.hasCdnRails = false) :
    d.withCdn = false := by
  rw [← Bool.not_eq_true]
  intro hcdn
  obtain ⟨hcacheMiss, hcdnRail⟩ := h.rails hcdn
  simp [Deal.hasCdnRails, hcacheMiss, hcdnRail] at hrails

end DataSet

namespace ServiceM

variable {l l' : Ledger} {c : Config} {terms : RailTerms} {withCdn : Bool} {rail : RailId}
  {egress : Option RailId × Option RailId} {d : DataSet} {flag : CdnFlag} {endEpoch : Epoch}

theorem RailsOpened.isSome_egress (h : RailsOpened l c terms withCdn rail egress l') :
    (egress.1.isSome = true ↔ withCdn = true) ∧ (egress.2.isSome = true ↔ withCdn = true) := by
  obtain ⟨m, -, ⟨rfl, _, _, _, rfl, -⟩ | ⟨rfl, rfl, -⟩⟩ := h
  · simp
  · simp

theorem withCdn_endedDataSet (h : d.Marked flag) : (endedDataSet d endEpoch).withCdn = false := by
  cases hrails : d.hasCdnRails with
  | true => exact (withoutCdn_of_endedDataSet hrails).1
  | false =>
    rw [endedDataSet, hrails, if_neg Bool.false_ne_true]
    exact h.withCdn_eq_false hrails

theorem marked_endedDataSet (h : d.Marked flag) : (endedDataSet d endEpoch).Marked flag := by
  have hcdn : (endedDataSet d endEpoch).withCdn = false := withCdn_endedDataSet h
  refine ⟨fun hcdn' => ?_, fun hflag => ?_⟩
  · rw [hcdn] at hcdn'
    contradiction
  · cases hrails : d.hasCdnRails with
    | true => simp [withoutCdn_of_endedDataSet hrails]
    | false =>
      rw [endedDataSet, hrails, if_neg Bool.false_ne_true]
      exact h.entry hflag

end ServiceM

structure ServiceState.Marked (flag : CdnFlag) (s : ServiceState) : Prop where
  flag_eq : s.config.versioning.cdnFlag = flag
  dataSets : ∀ id d, s.dataSet? id = some d → d.Marked flag

namespace Service

open ServiceM

variable {s s' : Service} {id : DataSetId} {d d' : DataSet} {ctx : CallContext} {c : Call}
  {flag : CdnFlag} {m : Move} {moves : List Move}

theorem Revision.marked (h : Revision ctx c s id d d') (hd : d.Marked flag) : d'.Marked flag := by
  cases h with
  | kept => exact hd
  | extended => exact ⟨hd.rails, hd.entry⟩
  | reassigned => exact ⟨hd.rails, hd.entry⟩
  | reported => exact ⟨hd.rails, hd.entry⟩
  | ended => exact marked_endedDataSet hd

theorem Revises.marked (h : Revises ctx c s s')
    (adjusts : s.state.config.Adjusts s'.state.config) (hs : s.state.Marked flag) :
    s'.state.Marked flag := by
  refine ⟨?_, fun id d' hd' => ?_⟩
  · rw [adjusts.versioning_eq, hs.flag_eq]
  cases h with
  | created call checked rails state =>
    rw [state, ServiceState.dataSet?_registered] at hd'
    split at hd'
    · cases hd'
      refine ⟨fun hcdn => ?_, fun hflag => ?_⟩
      · exact ⟨rails.isSome_egress.1.mpr hcdn, rails.isSome_egress.2.mpr hcdn⟩
      · rw [createdDataSet, hs.flag_eq, hflag]
        rfl
    · exact hs.dataSets id d' hd'
  | revised numbers dataSets =>
    obtain ⟨d, hd, revision⟩ := dataSets id d' hd'
    exact revision.marked (hs.dataSets id d hd)

theorem marked_run {config : Config} {l : Ledger} {providers : ProviderRegistry}
    {sessionKeys : SessionKeys} (h : Service.new config l providers sessionKeys = .ok s)
    (moves : List Move) : (s.run moves).state.Marked config.versioning.cdnFlag := by
  refine state_run (P := (·.Marked config.versioning.cdnFlag)) ?_ Revises.marked
  refine ⟨congrArg (·.config.versioning.cdnFlag) (state_of_new h).1, fun id d hd => ?_⟩
  rw [dataSet?_of_new h] at hd
  contradiction

def StorageHeld (l : Ledger) (d : DataSet) : Prop :=
  ∃ r, l.rail? d.storageRail = some r ∧ r.lockupPeriod ≠ 0

theorem StorageHeld.keeps {l l' : Ledger} (h : StorageHeld l d) (keeps : l.Keeps Rail.StaysHeld l')
    (hrail : d'.storageRail = d.storageRail) : StorageHeld l' d' := by
  obtain ⟨r, hr, hheld⟩ := h
  obtain ⟨r', hr', hstays⟩ := keeps _ r hr
  refine ⟨r', ?_, hstays hheld⟩
  rw [hrail]
  exact hr'

theorem StorageHeld.endEpoch_ne {l l' : Ledger} {epoch endEpoch : Epoch} (h : StorageHeld l d)
    (hterminate : l.terminate d.storageRail epoch = .ok (endEpoch, l')) : endEpoch ≠ 0 := by
  obtain ⟨r, hr, hheld⟩ := h
  obtain ⟨r', hr', -, rfl, -⟩ := Ledger.rail?_of_terminate hterminate
  rw [hr, Option.some.injEq] at hr'
  subst hr'
  intro hzero
  exact hheld (Word.clampAdd_eq_zero_iff.mp hzero).2

theorem Revision.storageRail_eq (h : Revision ctx c s id d d') :
    d'.storageRail = d.storageRail := by
  cases h with
  | kept => rfl
  | extended => rfl
  | reassigned => rfl
  | reported => rfl
  | ended => exact DataSet.storageRail_of_contract (contract_endedDataSet d _)

theorem Revision.attached (h : Revision ctx c s id d d') (held : StorageHeld s.ledger d)
    (hd : d.Attached) : d'.Attached := by
  cases h with
  | kept => exact hd
  | extended => exact hd
  | reassigned => exact hd
  | reported live => exact fun _ => hd live
  | ended call live storage =>
    intro hlive
    rw [Deal.isTerminated, endEpoch_endedDataSet] at hlive
    exact absurd (bne_eq_false_iff_eq.mp hlive) (held.endEpoch_ne storage)

/-- Data sets are attached to their rails, and an end of the service will show. -/
def Attached (s : Service) : Prop :=
  ∀ id d, s.state.dataSet? id = some d → StorageHeld s.ledger d ∧ d.Attached

theorem Attached.call (hs : Reachable s) (h : s.Attached)
    (room : (s.move (.call ctx c)).ledger.rails.size < UInt64.size) :
    (s.move (.call ctx c)).Attached := by
  rw [move_call] at room ⊢
  have hcall : s.call ctx c = ((s.call ctx c).1, (s.call ctx c).2) := rfl
  have dealings := (outcome_of_call hs.indexed hcall).dealings
  have keeps := (keepsPeriods_of_dealings dealings hs.ledger room).staysHeld
  intro id d' hd'
  cases revises_of_call hcall with
  | created call checked rails state =>
    rw [state, ServiceState.dataSet?_registered] at hd'
    split at hd'
    · cases hd'
      obtain ⟨-, -, hlockup, -⟩ := Config.validate_eq_ok_iff.mp hs.valid
      exact ⟨⟨_, rails.rail?_storage, hlockup⟩, fun _ => rails.isSome_egress⟩
    · obtain ⟨held, hattached⟩ := h id d' hd'
      exact ⟨held.keeps keeps rfl, hattached⟩
  | revised numbers dataSets =>
    obtain ⟨d, hd, revision⟩ := dataSets id d' hd'
    obtain ⟨held, hattached⟩ := h id d hd
    exact ⟨held.keeps keeps revision.storageRail_eq, revision.attached held hattached⟩

theorem Attached.move (hs : Reachable s) (h : s.Attached) (hm : m.keepsLockups = true)
    (room : (s.move m).ledger.rails.size < UInt64.size) : (s.move m).Attached := by
  obtain ⟨ctx, c, rfl⟩ | ⟨op, rfl⟩ | ⟨hstate, hledger⟩ := move_cases (s := s) m
  · exact h.call hs room
  · have room' := Nat.lt_of_le_of_lt Ledger.reaches_operate.size_le room
    have keeps := Ledger.staysHeld_operate (hs.numbered room') hm
    intro id d hd
    obtain ⟨held, hattached⟩ := h id d hd
    exact ⟨held.keeps keeps rfl, hattached⟩
  · intro id d hd
    rw [hstate] at hd
    rw [hledger]
    exact h id d hd

theorem Attached.run (hs : Reachable s) (h : s.Attached) (hmoves : ∀ m ∈ moves, m.keepsLockups)
    (room : (s.run moves).ledger.rails.size < UInt64.size) : (s.run moves).Attached := by
  induction moves generalizing s with
  | nil => exact h
  | cons m moves ih =>
    obtain ⟨hm, hmoves⟩ := List.forall_mem_cons.mp hmoves
    have room' := Nat.lt_of_le_of_lt (reaches_run (s.move m) moves).size_le room
    exact ih hs.move (h.move hs hm room') hmoves room

/--
The marks of the CDN add-on never disagree in a run of a new service, whatever calls it gets. With
the flag a data set has both egress rails, and where the add-on is asked for by metadata the flag is
that of the entry; while the data set is not terminated it has egress rails only with the flag. This
needs the lockup of storage rails, which no call gives up. A termination of the service takes the
flag away and leaves the egress rails.
-/
theorem cdn_marks_agree {config : Config} {ops : List Ledger.Operation}
    {providers : ProviderRegistry} {sessionKeys : SessionKeys}
    (h : Service.new config (.run .empty ops) providers sessionKeys = .ok s) (moves : List Move) :
    (∀ id d, (s.run moves).state.dataSet? id = some d →
      (d.withCdn = true → d.cacheMissRail.isSome = true ∧ d.cdnRail.isSome = true) ∧
      (config.versioning.cdnFlag = .metadataKey →
        (d.withCdn = true ↔ d.metadata.hasKey withCdnKey = true)) ∧
      ((∀ m ∈ moves, m.keepsLockups = true) →
        (s.run moves).ledger.rails.size < UInt64.size → d.isTerminated = false →
        (d.cacheMissRail.isSome = true ↔ d.withCdn = true) ∧
        (d.cdnRail.isSome = true ↔ d.withCdn = true))) ∧
    ∀ ctx id reply s', (s.run moves).call ctx (.terminateService id) = (.ok reply, s') →
      ∃ d d', (s.run moves).state.dataSet? id = some d ∧ s'.state.dataSet? id = some d' ∧
        d'.withCdn = false ∧ d'.cacheMissRail = d.cacheMissRail ∧ d'.cdnRail = d.cdnRail := by
  have hmarked := marked_run h moves
  refine ⟨fun id d hd => ?_, fun ctx id reply s' hcall => ?_⟩
  · obtain ⟨hrails, hentry⟩ := hmarked.dataSets id d hd
    refine ⟨hrails, hentry, fun hmoves room => ?_⟩
    -- a new service has no data sets
    have hs : s.Attached := by
      intro id d hd
      rw [dataSet?_of_new h] at hd
      contradiction
    exact (hs.run (.new h) hmoves room id d hd).2
  · obtain ⟨endEpoch, t, hsucceeds, hreply⟩ := succeeds_bind.mp (call_eq_ok_iff.mp hcall)
    obtain ⟨-, rfl⟩ := succeeds_pure.mp hreply
    obtain ⟨d, l, l', hd, -, -, -, -, rfl⟩ := succeeds_terminateService.mp hsucceeds
    have hcontract := contract_endedDataSet d endEpoch
    refine ⟨d, endedDataSet d endEpoch, hd, ?_, withCdn_endedDataSet (hmarked.dataSets id d hd), ?_⟩
    · rw [ServiceState.dataSet?, Std.ExtTreeMap.getElem?_insert_self]
    · injection hcontract with _ _ _ _ hcacheMiss hcdn
      exact ⟨hcacheMiss, hcdn⟩

def endedMarkedService : Service :=
  (markedService.call ⟨markedPayer, 20⟩ (.terminateService 1)).2

theorem cdn_marks_markedCreation :
    (∃ d, markedService.state.dataSet? 1 = some d ∧ d.isTerminated = false ∧ d.withCdn = true ∧
      d.metadata.hasKey withCdnKey = true ∧ d.cacheMissRail.isSome = true ∧
      d.cdnRail.isSome = true) ∧
    ∃ d, endedMarkedService.state.dataSet? 1 = some d ∧ d.withCdn = false ∧
      d.metadata.hasKey withCdnKey = false ∧ d.cacheMissRail = some 2 ∧ d.cdnRail = some 3 := by
  have hcall : markedService.call ⟨markedPayer, 20⟩ (.terminateService 1) =
      (.ok (.endEpoch (20 + epochsPerMonth)), endedMarkedService) :=
    call_eq_of_answer (by decide +kernel)
  have hended : emptyMarkedService.run
      (markedCreation ++ [.call ⟨markedPayer, 20⟩ (.terminateService 1)]) = endedMarkedService := by
    rw [run_append, run_markedCreation]
    rfl
  obtain ⟨d, hd, hlive, hentry, hrails⟩ : ∃ d, markedService.state.dataSet? 1 = some d ∧
      d.isTerminated = false ∧ d.metadata.hasKey withCdnKey = true ∧
      (d.cacheMissRail, d.cdnRail) = (some 2, some 3) :=
    ⟨_, Std.ExtTreeMap.getElem?_insert_self, rfl, rfl, rfl⟩
  rw [Prod.mk.injEq] at hrails
  obtain ⟨hmarks, hend⟩ := @cdn_marks_agree _ _ [] _ _ new_emptyMarkedService markedCreation
  obtain ⟨hmarks', -⟩ := @cdn_marks_agree _ _ [] _ _ new_emptyMarkedService
    (markedCreation ++ [.call ⟨markedPayer, 20⟩ (.terminateService 1)])
  rw [run_markedCreation] at hmarks hend
  rw [hended] at hmarks'
  refine ⟨⟨d, hd, hlive, ?_, hentry, ?_⟩, ?_⟩
  · obtain ⟨-, hflag, -⟩ := hmarks 1 d hd
    exact (hflag rfl).mpr hentry
  · obtain ⟨-, hflag, hattached⟩ := hmarks 1 d hd
    obtain ⟨hcacheMiss, hcdn⟩ := hattached (by decide +kernel) (by decide +kernel) hlive
    have hset := (hflag rfl).mpr hentry
    exact ⟨hcacheMiss.mpr hset, hcdn.mpr hset⟩
  · obtain ⟨d', d'', hd', hd'', hunset, hcacheMiss, hcdn⟩ := hend _ _ _ _ hcall
    rw [hd, Option.some.injEq] at hd'
    subst hd'
    obtain ⟨-, hflag, -⟩ := hmarks' 1 d'' hd''
    refine ⟨d'', hd'', hunset, ?_, hcacheMiss.trans hrails.1, hcdn.trans hrails.2⟩
    rw [← Bool.not_eq_true, ← hflag rfl, hunset]
    exact Bool.false_ne_true

end Service

end WarmStorage
