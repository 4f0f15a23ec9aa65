import WarmStorage.Proofs.Ledger.Locality
import WarmStorage.Proofs.Service.Respects
import WarmStorage.Proofs.Service.Soundness

/-!
The scope of a data set: what of the service is its own or its payer's. Calls about the data set
write nothing else but what payees are credited, and read nothing else that calls about data sets
write. So on two services that agree on the scope they have the same result and change the same.
-/

namespace WarmStorage

namespace Service

inductive Cell where
  | dataSet (id : DataSetId)
  | proving (id : DataSetId)
  | dataSetsOf (payer : Address)
  | nonces (payer : Address)
  | ownerOf (rail : RailId)
  | rail (rail : RailId)
  | account (key : AccountKey)
  | approval (key : ApprovalKey)

def SameAt (s t : Service) : Cell → Prop
  | .dataSet id => t.state.dataSets[id]? = s.state.dataSets[id]?
  | .proving id => t.state.proving[id]? = s.state.proving[id]?
  | .dataSetsOf payer => t.state.payerDataSets[payer]? = s.state.payerDataSets[payer]?
  | .nonces payer => t.state.replay.nonces[payer]? = s.state.replay.nonces[payer]?
  | .ownerOf rail => t.state.railOwners[rail]? = s.state.railOwners[rail]?
  | .rail rail => t.ledger.rails[rail]? = s.ledger.rails[rail]?
  | .account key => t.ledger.accounts[key]? = s.ledger.accounts[key]?
  | .approval key => t.ledger.approvals[key]? = s.ledger.approvals[key]?

structure SameRest (s t : Service) : Prop where
  config : t.state.config = s.state.config
  payerCounters : t.state.payerCounters = s.state.payerCounters
  clientIds : t.state.replay.dataSets = s.state.replay.dataSets
  approvedProviders : t.state.approvedProviders = s.state.approvedProviders
  providers : t.providers = s.providers
  sessionKeys : t.sessionKeys = s.sessionKeys
  lastRail : t.ledger.lastRail = s.ledger.lastRail

variable {s t u s' t' s₀ t₀ : Service} {c : Cell}

theorem SameAt.refl : s.SameAt s c := by
  cases c
  all_goals rfl

theorem SameAt.symm (h : s.SameAt t c) : t.SameAt s c := by
  cases c
  all_goals exact Eq.symm h

theorem SameAt.trans (h : s.SameAt t c) (h' : t.SameAt u c) : s.SameAt u c := by
  cases c
  all_goals exact Eq.trans h' h

theorem SameRest.refl : s.SameRest s :=
  ⟨rfl, rfl, rfl, rfl, rfl, rfl, rfl⟩

theorem SameRest.symm (h : s.SameRest t) : t.SameRest s :=
  ⟨h.config.symm, h.payerCounters.symm, h.clientIds.symm, h.approvedProviders.symm,
    h.providers.symm, h.sessionKeys.symm, h.lastRail.symm⟩

theorem SameRest.trans (h : s.SameRest t) (h' : t.SameRest u) : s.SameRest u :=
  ⟨h'.config.trans h.config, h'.payerCounters.trans h.payerCounters,
    h'.clientIds.trans h.clientIds, h'.approvedProviders.trans h.approvedProviders,
    h'.providers.trans h.providers, h'.sessionKeys.trans h.sessionKeys,
    h'.lastRail.trans h.lastRail⟩

/-- There is nothing in state and ledger but cells, the rest, and payouts. -/
theorem eq_of_sameAt (cells : ∀ c, s.SameAt t c) (rest : s.SameRest t)
    (payouts : t.ledger.payouts = s.ledger.payouts) :
    t.state = s.state ∧ t.ledger = s.ledger := by
  have hdataSets := Std.ExtTreeMap.ext_getElem? fun id => cells (.dataSet id)
  have hproving := Std.ExtTreeMap.ext_getElem? fun id => cells (.proving id)
  have hdataSetsOf := Std.ExtTreeMap.ext_getElem? fun payer => cells (.dataSetsOf payer)
  have hnonces := Std.ExtTreeMap.ext_getElem? fun payer => cells (.nonces payer)
  have howners := Std.ExtTreeMap.ext_getElem? fun rail => cells (.ownerOf rail)
  have hrails := Std.ExtTreeMap.ext_getElem? fun rail => cells (.rail rail)
  have haccounts := Std.ExtTreeMap.ext_getElem? fun key => cells (.account key)
  have happrovals := Std.ExtTreeMap.ext_getElem? fun key => cells (.approval key)
  obtain ⟨hconfig, hcounters, hclientIds, happroved, -, -, hlastRail⟩ := rest
  obtain ⟨⟨⟨_, _, ⟨_, _⟩, _, _, _⟩, _, _⟩, ⟨_, _, _, _, _⟩, _, _, _⟩ := s
  obtain ⟨⟨⟨_, _, ⟨_, _⟩, _, _, _⟩, _, _⟩, ⟨_, _, _, _, _⟩, _, _, _⟩ := t
  dsimp only at *
  subst_vars
  exact ⟨rfl, rfl⟩

end Service

structure Scope where
  id : DataSetId
  payer : Address
  rails : List RailId

namespace Scope

open Service ServiceM

variable {A : Scope} {s t s' t' s₀ t₀ : Service} {c : Cell} {f : ServiceState → ServiceState}

def Has (A : Scope) : Cell → Prop
  | .dataSet id => id = A.id
  | .proving id => id = A.id
  | .dataSetsOf payer => payer = A.payer
  | .nonces payer => payer = A.payer
  | .ownerOf rail => rail ∈ A.rails
  | .rail rail => rail ∈ A.rails
  | .account key => key.owner = A.payer
  | .approval key => key.client = A.payer

structure Holds (A : Scope) (s : Service) : Prop where
  dataSet : ∀ d, s.state.dataSet? A.id = some d → d.payer = A.payer ∧ d.railIds = A.rails
  rail : ∀ rail ∈ A.rails, ∀ r, s.ledger.rail? rail = some r → r.payer = A.payer

structure Only (A : Scope) (s s' : Service) : Prop where
  cells : ∀ c, ¬ A.Has c → s.SameAt s' c
  rest : s.SameRest s'

theorem Only.refl : A.Only s s :=
  ⟨fun _ _ => .refl, .refl⟩

theorem Only.trans (h : A.Only s t) (h' : A.Only t s') : A.Only s s' :=
  ⟨fun c hc => (h.cells c hc).trans (h'.cells c hc), h.rest.trans h'.rest⟩

/-- From `s₀` and `t₀` to `s` and `t` the same changed, and only in the scope. -/
structure Parallel (A : Scope) (s₀ t₀ s t : Service) : Prop where
  left : A.Only s₀ s
  right : A.Only t₀ t
  agree : ∀ c, A.Has c → s.SameAt t c
  rest : s.SameRest t
  holds : A.Holds s
  payouts : ∃ credits : List (AccountKey × TokenAmount),
    s.ledger.payouts = credits.foldl Ledger.credited s₀.ledger.payouts ∧
    t.ledger.payouts = credits.foldl Ledger.credited t₀.ledger.payouts
  added : SameAdded s₀ t₀ s t

theorem Parallel.refl (agree : ∀ c, A.Has c → s.SameAt t c) (rest : s.SameRest t)
    (holds : A.Holds s) : A.Parallel s t s t :=
  ⟨.refl, .refl, agree, rest, holds, ⟨[], rfl, rfl⟩, .refl⟩

structure Confines (A : Scope) (f : ServiceState → ServiceState) : Prop where
  off : ∀ (s : Service) c, ¬ A.Has c → s.SameAt { s with state := f s.state } c
  on : ∀ (s t : Service) c, A.Has c → s.SameAt t c →
    SameAt { s with state := f s.state } { t with state := f t.state } c
  rest : ∀ s : Service, s.SameRest { s with state := f s.state }
  dataSet : ∀ s d, (f s).dataSet? A.id = some d →
    s.dataSet? A.id = some d ∨ d.payer = A.payer ∧ d.railIds = A.rails

theorem Confines.respects (h : A.Confines f) :
    Respects (A.Parallel s₀ t₀) (modifyState f) := by
  refine respects_modifyState fun s t hst => ?_
  have hrest := ((h.rest s).symm.trans hst.rest).trans (h.rest t)
  refine ⟨hst.left.trans ⟨h.off s, h.rest s⟩, hst.right.trans ⟨h.off t, h.rest t⟩,
    fun c hc => h.on s t c hc (hst.agree c hc), hrest, ⟨fun d hd => ?_, hst.holds.rail⟩,
    hst.payouts, hst.added⟩
  obtain hd | hown := h.dataSet s.state d hd
  · exact hst.holds.dataSet d hd
  · exact hown

theorem confines_setDataSet {d : DataSet} (hd : d.payer = A.payer ∧ d.railIds = A.rails) :
    A.Confines fun s => { s with dataSets := s.dataSets.insert A.id d } where
  off s c hc := by
    cases c with
    | dataSet id => exact getElem?_insert_of_ne hc
    | _ => exact rfl
  on s t c _ h := by
    cases c with
    | dataSet id => exact getElem?_insert_congr h
    | _ => exact h
  rest s := ⟨rfl, rfl, rfl, rfl, rfl, rfl, rfl⟩
  dataSet s d' hd' := by
    have hself : (s.dataSets.insert A.id d)[A.id]? = some d :=
      Std.ExtTreeMap.getElem?_insert_self
    cases hself.symm.trans hd'
    exact .inr hd

theorem confines_setProving {p : ProvingState} :
    A.Confines fun s => { s with proving := s.proving.insert A.id p } where
  off s c hc := by
    cases c with
    | proving id => exact getElem?_insert_of_ne hc
    | _ => exact rfl
  on s t c _ h := by
    cases c with
    | proving id => exact getElem?_insert_congr h
    | _ => exact h
  rest s := ⟨rfl, rfl, rfl, rfl, rfl, rfl, rfl⟩
  dataSet s d hd := .inl hd

theorem confines_recordNonce {nonce : UInt256} {use : NonceUse} :
    A.Confines fun s => { s with replay := s.replay.recordNonce A.payer nonce use } where
  off s c hc := by
    cases c with
    | nonces payer => exact getElem?_insert_of_ne hc
    | _ => exact rfl
  on s t c hc h := by
    cases c with
    | nonces payer =>
      cases hc
      have h : t.state.replay.nonces[A.payer]? = s.state.replay.nonces[A.payer]? := h
      show (Std.ExtTreeMap.insert _ _ _)[A.payer]? = (Std.ExtTreeMap.insert _ _ _)[A.payer]?
      rw [Std.ExtTreeMap.getElem?_insert_self, Std.ExtTreeMap.getElem?_insert_self,
        Std.ExtTreeMap.getD_eq_getD_getElem?, Std.ExtTreeMap.getD_eq_getD_getElem?, h]
    | _ => exact h
  rest s := ⟨rfl, rfl, rfl, rfl, rfl, rfl, rfl⟩
  dataSet s d hd := .inl hd

theorem confines_withoutDataSet {d : DataSet} (hd : d.payer = A.payer ∧ d.railIds = A.rails) :
    A.Confines (·.withoutDataSet A.id d) where
  off s c hc := by
    obtain ⟨hpayer, hrails⟩ := hd
    cases c with
    | dataSet id => exact getElem?_erase_of_ne hc
    | proving id => exact getElem?_erase_of_ne hc
    | dataSetsOf payer => exact getElem?_alter_of_ne (hpayer ▸ hc)
    | ownerOf rail =>
      refine ServiceState.dataSetOfRail?_withoutDataSet.trans (if_neg ?_)
      rw [hrails]
      exact hc
    | _ => exact rfl
  on s t c hc h := by
    obtain ⟨hpayer, hrails⟩ := hd
    cases c with
    | dataSet id => exact getElem?_erase_congr h
    | proving id => exact getElem?_erase_congr h
    | dataSetsOf payer => exact getElem?_alter_congr h
    | ownerOf rail =>
      have hmem : rail ∈ d.railIds := hrails ▸ hc
      exact (ServiceState.dataSetOfRail?_withoutDataSet.trans (if_pos hmem)).trans
        (ServiceState.dataSetOfRail?_withoutDataSet.trans (if_pos hmem)).symm
    | _ => exact h
  rest s := ⟨rfl, rfl, rfl, rfl, rfl, rfl, rfl⟩
  dataSet s d' hd' := by
    rw [ServiceState.dataSet?_withoutDataSet, if_pos rfl] at hd'
    contradiction

theorem Parallel.withLedger (h : A.Parallel s₀ t₀ s t) {l m : Ledger}
    (off : ∀ c, ¬ A.Has c → s.SameAt { s with ledger := l } c)
    (off' : ∀ c, ¬ A.Has c → t.SameAt { t with ledger := m } c)
    (on : ∀ c, A.Has c → SameAt { s with ledger := l } { t with ledger := m } c)
    (lastRail : l.lastRail = s.ledger.lastRail) (lastRail' : m.lastRail = t.ledger.lastRail)
    (payer : ∀ rail ∈ A.rails, ∀ r, l.rail? rail = some r → r.payer = A.payer)
    (payouts : ∃ credits : List (AccountKey × TokenAmount),
      l.payouts = credits.foldl Ledger.credited s.ledger.payouts ∧
      m.payouts = credits.foldl Ledger.credited t.ledger.payouts) :
    A.Parallel s₀ t₀ { s with ledger := l } { t with ledger := m } := by
  have hs : s.SameRest { s with ledger := l } := ⟨rfl, rfl, rfl, rfl, rfl, rfl, lastRail⟩
  have ht : t.SameRest { t with ledger := m } := ⟨rfl, rfl, rfl, rfl, rfl, rfl, lastRail'⟩
  refine ⟨h.left.trans ⟨off, hs⟩, h.right.trans ⟨off', ht⟩, on, (hs.symm.trans h.rest).trans ht,
    ⟨h.holds.dataSet, payer⟩, ?_, h.added⟩
  obtain ⟨credits, hcredits, hcredits'⟩ := h.payouts
  obtain ⟨more, hmore, hmore'⟩ := payouts
  refine ⟨credits ++ more, ?_, ?_⟩
  · rw [List.foldl_append, ← hcredits]
    exact hmore
  · rw [List.foldl_append, ← hcredits']
    exact hmore'

theorem Parallel.agreeOn (h : A.Parallel s₀ t₀ s t) {rail : RailId} (hrail : rail ∈ A.rails) :
    s.ledger.AgreeOn t.ledger rail where
  rail := h.agree (.rail rail) hrail
  account r hr :=
    Ledger.account_congr (h.agree (.account _) (h.holds.rail rail hrail r hr))
  approval r hr :=
    Ledger.approval_congr (h.agree (.approval _) (h.holds.rail rail hrail r hr))

theorem payer_of_insert (h : A.Holds s) {rail : RailId} {new : Rail} (hnew : new.payer = A.payer)
    {l : Ledger} (hl : l.rails = s.ledger.rails.insert rail new) :
    ∀ other ∈ A.rails, ∀ r, l.rail? other = some r → r.payer = A.payer := by
  intro other hother r hr
  rw [Ledger.rail?, hl, Std.ExtTreeMap.getElem?_insert] at hr
  split at hr
  · cases hr
    exact hnew
  · exact h.rail other hother r hr

theorem respects_terminate {rail : RailId} {epoch : Epoch} (hrail : rail ∈ A.rails) :
    Respects (A.Parallel s₀ t₀) (ledgerCall (·.terminate rail epoch)) := by
  refine respects_ledgerCall fun s t hst => ?_
  obtain ⟨e, hs, ht⟩ | ⟨endEpoch, r, hs, ht, old, hold, hr⟩ := (hst.agreeOn hrail).terminate
  · exact .inr ⟨e, hs, ht⟩
  · have hpayer : r.payer = A.payer := by
      rw [hr]
      exact hst.holds.rail rail hrail old hold
    have off (u : Service) c (hc : ¬ A.Has c) : u.SameAt { u with
        ledger := { u.ledger with rails := u.ledger.rails.insert rail r } } c := by
      cases c with
      | rail other =>
        refine getElem?_insert_of_ne ?_
        rintro rfl
        exact hc hrail
      | _ => exact rfl
    refine .inl ⟨endEpoch, _, _, hs, ht, hst.withLedger (off s) (off t) (fun c hc => ?_) rfl rfl
      (payer_of_insert hst.holds hpayer rfl) ⟨[], rfl, rfl⟩⟩
    cases c with
    | rail other => exact getElem?_insert_congr (hst.agree (.rail other) hc)
    | _ => exact hst.agree _ hc

def withAdjusted (s : Service) (rail : RailId) (new : Rail) (account : Account)
    (approval : Approval) (oneTime : TokenAmount) : Service :=
  { s with ledger := (s.ledger.withRail rail new account approval).pay new.toRailTerms oneTime }

section Adjusted

variable {rail : RailId} {new : Rail} {account : Account} {approval : Approval}
  {oneTime : TokenAmount}

theorem sameAt_withAdjusted (hrail : rail ∈ A.rails) (hpayer : new.payer = A.payer)
    (hc : ¬ A.Has c) : s.SameAt (withAdjusted s rail new account approval oneTime) c := by
  cases c with
  | rail other =>
    show (Ledger.pay _ _ _).rails[other]? = _
    rw [Ledger.rails_pay]
    refine getElem?_insert_of_ne ?_
    rintro rfl
    exact hc hrail
  | account key =>
    have hne : key.owner ≠ new.payer := hpayer ▸ hc
    refine (Ledger.accounts_pay_of_ne hne).trans (getElem?_insert_of_ne ?_)
    rintro rfl
    exact hne rfl
  | approval key =>
    show (Ledger.pay _ _ _).approvals[key]? = _
    rw [Ledger.approvals_pay]
    refine getElem?_insert_of_ne ?_
    rintro rfl
    exact hc hpayer
  | _ => exact rfl

theorem sameAt_withAdjusted_congr (h : s.SameAt t c) :
    (withAdjusted s rail new account approval oneTime).SameAt
      (withAdjusted t rail new account approval oneTime) c := by
  cases c with
  | rail other =>
    show (Ledger.pay _ _ _).rails[other]? = (Ledger.pay _ _ _).rails[other]?
    rw [Ledger.rails_pay, Ledger.rails_pay]
    exact getElem?_insert_congr h
  | account key => exact Ledger.accounts_pay_congr (getElem?_insert_congr h)
  | approval key =>
    show (Ledger.pay _ _ _).approvals[key]? = (Ledger.pay _ _ _).approvals[key]?
    rw [Ledger.approvals_pay, Ledger.approvals_pay]
    exact getElem?_insert_congr h
  | _ => exact h

end Adjusted

theorem respects_adjust {rail : RailId} {f : Rail → Except LedgerError (Rail × TokenAmount)}
    (hrail : rail ∈ A.rails)
    (hterms : ∀ old new oneTime, f old = .ok (new, oneTime) → new.toRailTerms = old.toRailTerms) :
    Respects (A.Parallel s₀ t₀) (ledgerChange (·.adjust rail f)) := by
  refine respects_ledgerChange fun s t hst => ?_
  obtain ⟨e, hs, ht⟩ | ⟨new, account, approval, oneTime, hs, ht, old, hold, hnew⟩ :=
    (hst.agreeOn hrail).adjust hterms
  · exact .inr ⟨e, hs, ht⟩
  · have hpayer : new.payer = A.payer := by
      rw [hnew]
      exact hst.holds.rail rail hrail old hold
    exact .inl ⟨_, _, hs, ht, hst.withLedger (fun _ => sameAt_withAdjusted hrail hpayer)
      (fun _ => sameAt_withAdjusted hrail hpayer)
      (fun c hc => sameAt_withAdjusted_congr (hst.agree c hc)) Ledger.lastRail_pay
      Ledger.lastRail_pay (payer_of_insert hst.holds hpayer Ledger.rails_pay)
      ⟨[_], Ledger.payouts_pay, Ledger.payouts_pay⟩⟩

theorem respects_modifyLockup {rail : RailId} {period : UInt64} {fixed : TokenAmount}
    (hrail : rail ∈ A.rails) :
    Respects (A.Parallel s₀ t₀) (ledgerChange (·.modifyLockup rail period fixed)) := by
  simp only [Ledger.modifyLockup_eq_adjust]
  refine respects_adjust hrail fun old new oneTime h => ?_
  cases h
  rfl

theorem respects_modifyPayment {rail : RailId} {rate amount : TokenAmount}
    (hrail : rail ∈ A.rails) :
    Respects (A.Parallel s₀ t₀) (ledgerChange (·.modifyPayment rail rate amount)) := by
  simp only [Ledger.modifyPayment_eq_adjust]
  refine respects_adjust hrail fun old new oneTime h => ?_
  split at h
  · contradiction
  · cases h
    rfl

theorem sameRest_withEvents {events : List Event} : s.SameRest { s with events := events } :=
  ⟨rfl, rfl, rfl, rfl, rfl, rfl, rfl⟩

theorem respects_emit {event : Event} : Respects (A.Parallel s₀ t₀) (emit event) :=
  respects_modify fun _ _ h => ⟨⟨h.left.cells, h.left.rest.trans sameRest_withEvents⟩,
    ⟨h.right.cells, h.right.rest.trans sameRest_withEvents⟩, h.agree,
    (sameRest_withEvents.symm.trans h.rest).trans sameRest_withEvents,
    ⟨h.holds.dataSet, h.holds.rail⟩, h.payouts, h.added.emit event⟩

theorem tracks_parallel : Tracks (A.Parallel s₀ t₀) A.id
    fun payer rails => payer = A.payer ∧ rails = A.rails where
  config h := ⟨_, _, h.rest.config⟩
  sessionKeys h := h.rest.sessionKeys
  dataSet h := h.agree (.dataSet A.id) rfl
  own h hd := h.holds.dataSet _ hd
  proving h := h.agree (.proving A.id) rfl
  nonce := by
    rintro s t payer rails nonce h ⟨rfl, -⟩
    have hsame : t.state.replay.nonces[A.payer]? = s.state.replay.nonces[A.payer]? :=
      h.agree (.nonces A.payer) rfl
    rw [ReplayRegistry.nonce?, hsame, ReplayRegistry.nonce?]
  rail := by
    rintro s t payer rails h ⟨-, rfl⟩ rail hrail
    exact h.agree (.rail rail) hrail
  setDataSet hd := (confines_setDataSet hd).respects
  setProving := confines_setProving.respects
  recordNonce := by
    rintro payer rails nonce use ⟨rfl, -⟩
    exact confines_recordNonce.respects
  delete hd := (confines_withoutDataSet hd).respects
  emit := respects_emit
  modifyPayment := by
    rintro payer rails rate amount ⟨-, rfl⟩ rail hrail
    exact respects_modifyPayment hrail
  modifyLockup := by
    rintro payer rails period fixed ⟨-, rfl⟩ rail hrail
    exact respects_modifyLockup hrail
  terminate := by
    rintro payer rails epoch ⟨-, rfl⟩ rail hrail
    exact respects_terminate hrail

theorem Parallel.call (h : A.Parallel s₀ t₀ s t) {ctx : CallContext} {call : Call}
    (about : call.about? = some A.id) :
    (t.call ctx call).1 = (s.call ctx call).1 ∧
      A.Parallel s₀ t₀ (s.call ctx call).2 (t.call ctx call).2 := by
  refine Alike.call (tracks_parallel.perform about ?_ s t h)
  rintro _ _ - s t h
  exact ⟨h.rest.approvedProviders, h.rest.providers⟩

end Scope

end WarmStorage
