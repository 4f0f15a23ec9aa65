import WarmStorage.Proofs.Service.Contracts

/-!
What becomes of a data set in a call, and how the end of its storage is recorded. Each record is
announced by an event. The recorded epoch is also the mark that there is a record, so an end at
epoch zero is announced and forgotten.
-/

namespace WarmStorage

def Event.ending? (id : DataSetId) : Event → Option Epoch
  | .storagePaymentTerminated other endEpoch _ => if other = id then some endEpoch else none
  | _ => none

namespace Service

open ServiceM

variable {s s' : Service} {id other : DataSetId} {d d' d₁ : DataSet} {m : Move} {moves : List Move}
  {ctx : CallContext} {c : Call} {reply : Reply} {e : ServiceError} {endEpoch : Epoch}
  {ends : List Epoch}

inductive Continues (ctx : CallContext) (c : Call) (s : Service) (id : DataSetId)
    (d d' : DataSet) (ends : List Epoch) : Prop where
  | moved {serviceProvider : Address} {providerId : ProviderId}
      (eq : d' = { d with serviceProvider := serviceProvider, providerId := providerId })
      (ends_eq : ends = [])
  | grown {ids : List PieceId} {request : AdditionRequest} {count : UInt64}
      (live : d.isTerminated = false) (eq : d' = addedPieces d ids request count)
      (ends_eq : ends = [])
  | reported {endEpoch : Epoch} (live : d.isTerminated = false)
      (caller : ctx.caller = s.state.config.payments)
      (call : c = .railTerminated d.storageRail endEpoch)
      (eq : d' = { d with endEpoch := endEpoch }) (ends_eq : ends = [endEpoch])
  | ended {endEpoch : Epoch} (live : d.isTerminated = false) (call : c = .terminateService id)
      (answer : (s.call ctx c).1 = .ok (.endEpoch endEpoch)) (eq : d' = endedDataSet d endEpoch)
      (ends_eq : ends = [endEpoch])

theorem continues_of_same (hdataSets : s'.state.dataSets = s.state.dataSets)
    (hd : s.state.dataSet? id = some d) (hd' : s'.state.dataSet? id = some d')
    (ends_eq : ends = []) : Continues ctx c s id d d' ends := by
  rw [ServiceState.dataSet?, hdataSets] at hd'
  have heq : d = d' := Option.some.inj (hd.symm.trans hd')
  rw [← heq]
  exact .moved rfl ends_eq

theorem cases_of_insert (hdataSets : s'.state.dataSets = s.state.dataSets.insert other d₁)
    (hd : s.state.dataSet? id = some d) (hd' : s'.state.dataSet? id = some d') :
    other = id ∧ d' = d₁ ∨ other ≠ id ∧ d' = d := by
  rw [ServiceState.dataSet?, hdataSets, Std.ExtTreeMap.getElem?_insert] at hd'
  simp only [Std.compare_eq_iff_eq] at hd'
  split at hd'
  · rename_i heq
    exact .inl ⟨heq, (Option.some.inj hd').symm⟩
  · rename_i hne
    exact .inr ⟨hne, Option.some.inj (hd'.symm.trans hd)⟩

theorem endings_advanced {a : Advance} {challenge : Epoch} {leafCount : UInt64}
    {rate : Option TokenAmount} :
    (advanceEvents other d a challenge leafCount rate).filterMap (·.ending? id) = [] := by
  unfold advanceEvents
  cases rate with
  | none =>
    split
    · rfl
    · rfl
  | some rate =>
    split
    · rfl
    · rfl

theorem endings_terminated {cdn : Prop} [Decidable cdn] {caller : Address}
    {storageRail rail : RailId} {cacheMissRail cdnRail : Option RailId} :
    ([if cdn then .serviceTerminated caller other storageRail cacheMissRail cdnRail
      else .serviceTerminated caller other storageRail none none,
      .storagePaymentTerminated other endEpoch rail] : List Event).filterMap (·.ending? id) =
    if other = id then [endEpoch] else [] := by
  by_cases heq : other = id
  · split
    · simp [Event.ending?, heq]
    · simp [Event.ending?, heq]
  · split
    · simp [Event.ending?, heq]
    · simp [Event.ending?, heq]

theorem OwnerSets.endings {config : Config} {approved : Std.ExtTreeSet ProviderId} {event : Event}
    (h : s.OwnerSets c config approved event) : event.ending? id = none := by
  cases h
  all_goals rfl

theorem continues_of_succeeds (h : Succeeds (perform ctx c) s reply s')
    (hd : s.state.dataSet? id = some d) (hd' : s'.state.dataSet? id = some d') :
    ∃ events, s'.events = s.events ++ events ∧
      Continues ctx c s id d d' (events.filterMap (·.ending? id)) := by
  have hcall : s.call ctx c = (.ok reply, s') := call_eq_ok_iff.mpr h
  cases performed_of_succeeds h with
  | created checked =>
    refine ⟨_, rfl, ?_⟩
    obtain ⟨rfl, -⟩ | ⟨-, rfl⟩ := cases_of_insert rfl hd hd'
    · cases checked.unused.symm.trans hd
    · exact .moved rfl rfl
  | extended _ hd₁ live =>
    refine ⟨_, rfl, ?_⟩
    obtain ⟨rfl, rfl⟩ | ⟨-, rfl⟩ := cases_of_insert rfl hd hd'
    · cases hd.symm.trans hd₁
      exact .grown live rfl rfl
    · exact .moved rfl rfl
  | deleted =>
    refine ⟨_, rfl, ?_⟩
    rw [ServiceState.dataSet?_withoutDataSet] at hd'
    split at hd'
    · contradiction
    · cases hd.symm.trans hd'
      exact .moved rfl rfl
  | reassigned _ hd₁ =>
    refine ⟨_, rfl, ?_⟩
    obtain ⟨rfl, rfl⟩ | ⟨-, rfl⟩ := cases_of_insert rfl hd hd'
    · cases hd.symm.trans hd₁
      exact .moved rfl rfl
    · exact .moved rfl rfl
  | reported caller hd₁ live =>
    refine ⟨_, rfl, ?_⟩
    obtain ⟨rfl, rfl⟩ | ⟨hne, rfl⟩ := cases_of_insert rfl hd hd'
    · cases hd.symm.trans hd₁
      exact .reported live caller rfl rfl (by simp [Event.ending?])
    · exact .moved rfl (by simp [Event.ending?, hne])
  | ended hd₁ live =>
    refine ⟨_, rfl, ?_⟩
    obtain ⟨rfl, rfl⟩ | ⟨hne, rfl⟩ := cases_of_insert rfl hd hd'
    · cases hd.symm.trans hd₁
      exact .ended live rfl (congrArg Prod.fst hcall) rfl (endings_terminated.trans (if_pos rfl))
    · exact .moved rfl (endings_terminated.trans (if_neg hne))
  -- the others leave all data sets as they are
  | scheduled => exact ⟨_, rfl, continues_of_same rfl hd hd' rfl⟩
  | proven => exact ⟨_, rfl, continues_of_same rfl hd hd' rfl⟩
  | advanced => exact ⟨_, rfl, continues_of_same rfl hd hd' endings_advanced⟩
  | ignored => exact ⟨[], (List.append_nil _).symm, continues_of_same rfl hd hd' rfl⟩
  | arbitrated => exact ⟨[], (List.append_nil _).symm, continues_of_same rfl hd hd' rfl⟩
  | toppedUp => exact ⟨_, rfl, continues_of_same rfl hd hd' rfl⟩
  | settled => exact ⟨_, rfl, continues_of_same rfl hd hd' rfl⟩
  | owner _ sets =>
    refine ⟨_, rfl, continues_of_same rfl hd hd' ?_⟩
    rw [List.filterMap_cons_none sets.endings, List.filterMap_nil]

def emitted (s : Service) (m : Move) : List Event :=
  (s.move m).events.drop s.events.length

def announced (s : Service) (id : DataSetId) (m : Move) : List Epoch :=
  (s.emitted m).filterMap (·.ending? id)

def announcements (id : DataSetId) : Service → List Move → List Epoch
  | _, [] => []
  | s, m :: moves => s.announced id m ++ (s.move m).announcements id moves

def Lives (id : DataSetId) : Service → List Move → Prop
  | s, [] => (s.state.dataSet? id).isSome
  | s, m :: moves => (s.state.dataSet? id).isSome ∧ (s.move m).Lives id moves

instance decidableLives (id : DataSetId) : (s : Service) → (moves : List Move) →
    Decidable (s.Lives id moves)
  | s, [] => inferInstanceAs (Decidable ((s.state.dataSet? id).isSome = true))
  | s, m :: moves =>
    have := decidableLives id (s.move m) moves
    inferInstanceAs (Decidable ((s.state.dataSet? id).isSome = true ∧ (s.move m).Lives id moves))

theorem Lives.exists_dataSet (h : s.Lives id moves) : ∃ d, s.state.dataSet? id = some d := by
  cases moves with
  | nil => exact Option.isSome_iff_exists.mp h
  | cons m moves => exact Option.isSome_iff_exists.mp h.1

theorem Lives.of_append {before after : List Move} (h : s.Lives id (before ++ after)) :
    (s.run before).Lives id after := by
  induction before generalizing s with
  | nil => exact h
  | cons m before ih => exact ih h.2

theorem continues_of_call (hd : s.state.dataSet? id = some d)
    (hd' : (s.call ctx c).2.state.dataSet? id = some d') :
    Continues ctx c s id d d' (s.announced id (.call ctx c)) := by
  unfold announced emitted
  rw [move_call]
  cases hcall : s.call ctx c with
  | mk answer s' =>
  rw [hcall] at hd'
  cases answer with
  | ok reply =>
    obtain ⟨events, hevents, hcontinues⟩ := continues_of_succeeds (call_eq_ok_iff.mp hcall) hd hd'
    dsimp only
    rw [hevents, List.drop_left]
    exact hcontinues
  | error e =>
    have hrefused := refusedWithin_perform _ _ _ (call_eq_error_iff.mp hcall)
    refine continues_of_same (congrArg ServiceState.dataSets hrefused.state) hd hd' ?_
    rw [hrefused.events, List.drop_length]
    rfl

theorem events_of_not_call (h : ∀ ctx c, m ≠ .call ctx c) :
    (s.move m).events = s.events ∨ (s.move m).events = [] := by
  cases m with
  | call ctx c => exact absurd rfl (h ctx c)
  | operate op => exact .inl rfl
  | outside providers sessionKeys => exact .inl rfl
  | takeEvents => exact .inr rfl
  | restart sessionKeys =>
    obtain heq | heq := move_restart s sessionKeys
    · exact .inl (congrArg events heq)
    · exact .inr (congrArg events heq)

theorem emitted_of_not_call (h : ∀ ctx c, m ≠ .call ctx c) : s.emitted m = [] := by
  unfold emitted
  obtain heq | heq := events_of_not_call (s := s) h
  · rw [heq, List.drop_length]
  · rw [heq, List.drop_nil]

theorem announced_of_not_call (h : ∀ ctx c, m ≠ .call ctx c) : s.announced id m = [] := by
  rw [announced, emitted_of_not_call h, List.filterMap_nil]

/-- A report of the ledger on the storage rail, or a termination of the service. -/
inductive EndsStorage (s : Service) (id : DataSetId) (d : DataSet) (endEpoch : Epoch) :
    Move → Prop where
  | report {ctx : CallContext} (caller : ctx.caller = s.state.config.payments) :
      EndsStorage s id d endEpoch (.call ctx (.railTerminated d.storageRail endEpoch))
  | termination {ctx : CallContext}
      (answer : (s.call ctx (.terminateService id)).1 = .ok (.endEpoch endEpoch)) :
      EndsStorage s id d endEpoch (.call ctx (.terminateService id))

theorem endEpoch_eq_zero (h : d.isTerminated = false) : d.endEpoch = 0 := by
  rwa [Deal.isTerminated, bne_eq_false_iff_eq] at h

theorem announced_move (hd : s.state.dataSet? id = some d)
    (hd' : (s.move m).state.dataSet? id = some d') :
    s.announced id m = [] ∧ d'.endEpoch = d.endEpoch ∨
      s.announced id m = [d'.endEpoch] ∧ d.endEpoch = 0 ∧ s.EndsStorage id d d'.endEpoch m := by
  by_cases hm : ∃ ctx c, m = .call ctx c
  · obtain ⟨ctx, c, rfl⟩ := hm
    cases continues_of_call hd hd' with
    | moved heq hends =>
      rw [heq]
      exact .inl ⟨hends, rfl⟩
    | grown hlive heq hends =>
      rw [heq]
      exact .inl ⟨hends, rfl⟩
    | reported hlive hcaller hcall heq hends =>
      rw [heq]
      subst hcall
      exact .inr ⟨hends, endEpoch_eq_zero hlive, .report hcaller⟩
    | ended hlive hcall hanswer heq hends =>
      rw [heq, endEpoch_endedDataSet]
      subst hcall
      exact .inr ⟨hends, endEpoch_eq_zero hlive, .termination hanswer⟩
  · have hm : ∀ ctx c, m ≠ .call ctx c := fun ctx c hc => hm ⟨ctx, c, hc⟩
    have hstate : (s.move m).state = s.state := by
      obtain ⟨ctx, c, rfl⟩ | ⟨op, rfl⟩ | ⟨hstate, -⟩ := move_cases (s := s) m
      · exact absurd rfl (hm ctx c)
      · rfl
      · exact hstate
    rw [hstate, hd, Option.some.injEq] at hd'
    rw [← hd']
    exact .inl ⟨announced_of_not_call hm, rfl⟩

/-- Only ends at epoch zero are announced until another end is, and none after it. -/
theorem announcements_eq (lives : s.Lives id moves) (hd : s.state.dataSet? id = some d) :
    ∃ d', (s.run moves).state.dataSet? id = some d' ∧
      if d.endEpoch = 0 then
        ∃ zeros, s.announcements id moves =
          List.replicate zeros 0 ++ if d'.endEpoch = 0 then [] else [d'.endEpoch]
      else d'.endEpoch = d.endEpoch ∧ s.announcements id moves = [] := by
  induction moves generalizing s d with
  | nil =>
    refine ⟨d, hd, ?_⟩
    split
    · rename_i hzero
      exact ⟨0, by simp [announcements, *]⟩
    · exact ⟨rfl, rfl⟩
  | cons m moves ih =>
    obtain ⟨d₁, hd₁⟩ := lives.2.exists_dataSet
    obtain ⟨d', hd', hrest⟩ := ih lives.2 hd₁
    refine ⟨d', hd', ?_⟩
    rw [announcements]
    obtain ⟨hsilent, hsame⟩ | ⟨hends, hzero, -⟩ := announced_move hd hd₁
    · rw [hsilent, List.nil_append, ← hsame]
      exact hrest
    rw [if_pos hzero, hends]
    split at hrest
    · rename_i hzero'
      obtain ⟨zeros, hzeros⟩ := hrest
      refine ⟨zeros + 1, ?_⟩
      rw [hzeros, hzero', List.replicate_succ]
      rfl
    · rename_i hend
      rw [hrest.2, hrest.1]
      exact ⟨0, by simp [hend]⟩

theorem exists_of_created {serviceProvider : Address} {request : CreationRequest}
    (hcall : s.call ctx (.dataSetCreated id serviceProvider request) = (.ok reply, s')) :
    ∃ d, s'.state.dataSet? id = some d ∧ d.endEpoch = 0 := by
  obtain ⟨-, h⟩ := succeeds_done.mp (call_eq_ok_iff.mp hcall)
  obtain ⟨provider, payee, entries, clientId, storageRail, egress, l, -, -, rfl⟩ :=
    succeeds_dataSetCreated.mp h
  exact ⟨_, Std.ExtTreeMap.getElem?_insert_self, rfl⟩

/--
The storage of a new data set has no end. As long as the data set is there, each move either leaves
the end of its storage as it is and announces nothing, or announces the end that it records, which
is one that the ledger reports or that terminates the service. Only an end of zero can be replaced:
the ends that are announced along a run are zeros and then the end other than zero, if there is one,
that is there to stay.
-/
theorem ending_recorded {serviceProvider : Address} {request : CreationRequest}
    (hcall : s.call ctx (.dataSetCreated id serviceProvider request) = (.ok reply, s'))
    (lives : s'.Lives id moves) :
    (∃ d, s'.state.dataSet? id = some d ∧ d.endEpoch = 0) ∧
    (∀ before m after, moves = before ++ m :: after → ∃ d d',
      (s'.run before).state.dataSet? id = some d ∧
      ((s'.run before).move m).state.dataSet? id = some d' ∧
      ((s'.run before).announced id m = [] ∧ d'.endEpoch = d.endEpoch ∨
        (s'.run before).announced id m = [d'.endEpoch] ∧ d.endEpoch = 0 ∧
          (s'.run before).EndsStorage id d d'.endEpoch m)) ∧
    ∃ d zeros, (s'.run moves).state.dataSet? id = some d ∧
      s'.announcements id moves =
        List.replicate zeros 0 ++ if d.endEpoch = 0 then [] else [d.endEpoch] := by
  obtain ⟨d, hd, hzero⟩ := exists_of_created hcall
  refine ⟨⟨d, hd, hzero⟩, ?_, ?_⟩
  · rintro before m after rfl
    have lives := lives.of_append
    obtain ⟨d, hd⟩ := lives.exists_dataSet
    obtain ⟨d', hd'⟩ := lives.2.exists_dataSet
    exact ⟨d, d', hd, hd', announced_move hd hd'⟩
  · obtain ⟨d', hd', hends⟩ := announcements_eq lives hd
    rw [if_pos hzero] at hends
    obtain ⟨zeros, hzeros⟩ := hends
    exact ⟨d', zeros, hd', hzeros⟩

/-- The storage rail of the sample service is reported to end at one epoch and at another. -/
def reports (endEpoch other : Epoch) : List Move :=
  [.call ⟨4, 30⟩ (.railTerminated 1 endEpoch), .call ⟨4, 40⟩ (.railTerminated 1 other)]

theorem ending_recorded_cdnService :
    cdnService.Lives 1 (reports 50 60) ∧
    ∃ zeros, cdnService.announcements 1 (reports 50 60) = List.replicate zeros 0 ++ [50] := by
  have lives : cdnService.Lives 1 (reports 50 60) := by decide +kernel
  have hend : ((cdnService.run (reports 50 60)).state.dataSet? 1).map (·.endEpoch) = some 50 := by
    decide +kernel
  obtain ⟨-, -, d, zeros, hd, hends⟩ := ending_recorded (call_cdnCreation 0) lives
  rw [hd, Option.map_some, Option.some.injEq] at hend
  rw [hend, if_neg (by decide)] at hends
  exact ⟨lives, zeros, hends⟩

/-- Reported to end at epoch zero, storage is announced to end each time, and no end is recorded. -/
theorem zero_announced_again :
    Reachable cdnService ∧ cdnService.Lives 1 (reports 0 0) ∧
    cdnService.announcements 1 (reports 0 0) = [0, 0] ∧
    ((cdnService.run (reports 0 0)).state.dataSet? 1).map (·.endEpoch) = some 0 := by
  refine ⟨reachable_cdnService, ?_, ?_, ?_⟩
  · decide +kernel
  · decide +kernel
  · decide +kernel

end Service

end WarmStorage
