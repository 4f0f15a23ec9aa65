import WarmStorage.Proofs.Ledger.Locality
import WarmStorage.Proofs.Service.Contracts
import WarmStorage.Proofs.Service.Termination

/-!
What an address can do that has no role in the configuration. Only its own data sets are open to
it: it may end them, and as their payer it may lock up more of its own funds for their egress. All
other calls are refused before they change anything, and whatever is refused later has changed no
more than that.
-/

namespace WarmStorage

def DataSet.HasParty (d : DataSet) (a : Address) : Prop :=
  a = d.payer ∨ a = d.payee ∨ a = d.serviceProvider

structure Config.NoRole (c : Config) (a : Address) : Prop where
  verifier : a ≠ c.verifier
  payments : a ≠ c.payments
  owner : a ≠ c.owner
  cdnController : a ≠ c.cdnController

namespace Ledger

variable {l l' : Ledger} {owner : Address} {rails : List RailId} {id : RailId} {r : Rail}

/-- Only some rails change, and what `owner` has locked up for them; nothing is paid. -/
structure Confined (owner : Address) (rails : List RailId) (l l' : Ledger) : Prop where
  rails : ∀ rail, rail ∉ rails → l'.rail? rail = l.rail? rail
  size : l'.rails.size = l.rails.size
  accounts : ∀ key : AccountKey, key.owner ≠ owner → l'.accounts[key]? = l.accounts[key]?
  approvals : ∀ key : ApprovalKey, key.client ≠ owner → l'.approvals[key]? = l.approvals[key]?
  payouts : l'.payouts = l.payouts
  funds : ∀ token other, (l'.account token other).funds = (l.account token other).funds

theorem Confined.refl : l.Confined owner rails l :=
  ⟨fun _ _ => rfl, rfl, fun _ _ => rfl, fun _ _ => rfl, rfl, fun _ _ => rfl⟩

theorem Confined.trans {m : Ledger} (h : l.Confined owner rails m)
    (h' : m.Confined owner rails l') : l.Confined owner rails l' where
  rails rail hrail := (h'.rails rail hrail).trans (h.rails rail hrail)
  size := h'.size.trans h.size
  accounts key hkey := (h'.accounts key hkey).trans (h.accounts key hkey)
  approvals key hkey := (h'.approvals key hkey).trans (h.approvals key hkey)
  payouts := h'.payouts.trans h.payouts
  funds token other := (h'.funds token other).trans (h.funds token other)

theorem size_insert_rail (hr : l.rail? id = some r) {new : Rail} :
    (l.rails.insert id new).size = l.rails.size := by
  rw [Std.ExtTreeMap.size_insert, if_pos]
  rw [Std.ExtTreeMap.contains_eq_isSome_getElem?]
  exact Option.isSome_of_eq_some hr

theorem confined_of_modifyLockup {period : UInt64} {fixed : TokenAmount}
    (h : l.modifyLockup id period fixed = .ok l') (hr : l.rail? id = some r)
    (hpayer : r.payer = owner) (hid : id ∈ rails) : l.Confined owner rails l' := by
  obtain ⟨old, hold, -, hchange⟩ := modifyLockup_eq_ok_iff.mp h
  cases hr.symm.trans hold
  have hfunds token other : (l'.account token other).funds = (l.account token other).funds := by
    rw [account_of_changeRail hchange]
  have hrail := rail?_of_changeRail hchange
  obtain ⟨-, -, a, b, c, -, -, rfl⟩ := changeRail_eq_ok_iff.mp hchange
  refine ⟨?_, size_insert_rail hr, ?_, ?_, rfl, hfunds⟩
  · intro rail hne
    rw [hrail, if_neg]
    rintro rfl
    exact hne hid
  · intro key hkey
    refine getElem?_insert_of_ne ?_
    rintro rfl
    exact hkey hpayer
  · intro key hkey
    refine getElem?_insert_of_ne ?_
    rintro rfl
    exact hkey hpayer

theorem confined_of_terminate {epoch endEpoch : Epoch}
    (h : l.terminate id epoch = .ok (endEpoch, l')) (hid : id ∈ rails) :
    l.Confined owner rails l' := by
  obtain ⟨r, hr, -, -, hrail⟩ := rail?_of_terminate h
  obtain ⟨r, -, -, -, rfl⟩ := terminate_eq_ok_iff.mp h
  refine ⟨?_, size_insert_rail hr, fun _ _ => rfl, fun _ _ => rfl, rfl, fun _ _ => rfl⟩
  intro rail hne
  rw [hrail, if_neg]
  rintro rfl
  exact hne hid

end Ledger

namespace ServiceM

variable {ctx : CallContext} {id : DataSetId} {s s' : Service} {e : ServiceError}
  {owner : Address} {rails ended : List RailId} {epoch : Epoch}

theorem LockupRaised.confined {l l' : Ledger} {rail : RailId} {r : Rail}
    {amount lockup : TokenAmount} (h : LockupRaised l rail r amount lockup l')
    (hr : l.rail? rail = some r) (hpayer : r.payer = owner) (hrail : rail ∈ rails) :
    l.Confined owner rails l' := by
  obtain ⟨-, rfl⟩ | ⟨-, h⟩ := h
  · exact .refl
  · exact Ledger.confined_of_modifyLockup h hr hpayer hrail

def LedgerConfined (owner : Address) (rails : List RailId) (s s' : Service) : Prop :=
  s.ledger.Confined owner rails s'.ledger

instance : Std.Refl (LedgerConfined owner rails) where
  refl _ := Ledger.Confined.refl

instance : IsTrans Service (LedgerConfined owner rails) where
  trans _ _ _ h h' := h.trans h'

theorem confined_terminateRail {rail : RailId} (hrail : rail ∈ rails) :
    Within (LedgerConfined owner rails) (ledgerCall (·.terminate rail epoch)) := by
  refine ⟨refusedWithin_ledgerCall, ?_⟩
  intro s endEpoch s' h
  obtain ⟨l, hl, rfl⟩ := succeeds_ledgerCall.mp h
  exact Ledger.confined_of_terminate hl hrail

theorem fails_of_caller {α : Type} {role : Config → Address} {x y : Config → ServiceM α}
    (h : ctx.caller ≠ role s.state.config) (hx : Fails (x s.state.config) s e s) :
    Fails (config >>= fun c => if ctx.caller ≠ role c then x c else y c) s e s := by
  refine fails_bind.mpr (.inr ⟨_, s, succeeds_config.mpr ⟨rfl, rfl⟩, ?_⟩)
  rw [if_pos h]
  exact hx

theorem RailsTerminated.confined {d : DataSet} {l m l' : Ledger} {endEpoch : Epoch}
    (hstorage : l.terminate d.storageRail epoch = .ok (endEpoch, m))
    (hegress : RailsTerminated epoch (liveEgress l d) m l') : l.Confined owner d.railIds l' := by
  have hstorage : l.Confined owner d.railIds m :=
    Ledger.confined_of_terminate hstorage d.storageRail_mem_railIds
  have hrest : ∀ rail ∈ liveEgress l d, rail ∈ d.railIds := fun rail hrail =>
    List.mem_cons_of_mem _ (List.mem_filter.mp hrail).1
  clear * - hstorage hegress hrest
  generalize liveEgress l d = ended at hegress hrest
  induction ended generalizing m with
  | nil =>
    rw [show l' = m from hegress]
    exact hstorage
  | cons rail ended ih =>
    obtain ⟨hrail, hended⟩ := List.forall_mem_cons.mp hrest
    obtain ⟨endEpoch, m', hm, hegress⟩ := hegress
    exact ih (hstorage.trans (Ledger.confined_of_terminate hm hrail)) hegress hended

end ServiceM

namespace Service

open ServiceM

variable {s s' : Service} {X : Address} {id : DataSetId} {d : DataSet} {epoch : Epoch} {c : Call}
  {answer : Except ServiceError Reply}

structure Confined (X : Address) (s s' : Service) : Prop where
  state : s'.state = { s.state with dataSets := s'.state.dataSets }
  dataSets : ∀ id, (∀ d, s.state.dataSet? id = some d → ¬ d.HasParty X) →
    s'.state.dataSet? id = s.state.dataSet? id
  rails : ∀ id d, s.state.dataSet? id = some d → ¬ d.HasParty X → ∀ rail ∈ d.railIds,
    s'.ledger.rail? rail = s.ledger.rail? rail
  size : s'.ledger.rails.size = s.ledger.rails.size
  accounts : ∀ key : AccountKey, key.owner ≠ X →
    s'.ledger.accounts[key]? = s.ledger.accounts[key]?
  approvals : ∀ key : ApprovalKey, key.client ≠ X →
    s'.ledger.approvals[key]? = s.ledger.approvals[key]?
  payouts : s'.ledger.payouts = s.ledger.payouts
  funds : ∀ token owner,
    (s'.ledger.account token owner).funds = (s.ledger.account token owner).funds

theorem Confined.refl : s.Confined X s :=
  ⟨rfl, fun _ _ => rfl, fun _ _ _ _ _ _ => rfl, rfl, fun _ _ => rfl, fun _ _ => rfl, rfl,
    fun _ _ => rfl⟩

theorem Confined.trans {t : Service} (h : s.Confined X t) (h' : t.Confined X s') :
    s.Confined X s' where
  state := by rw [h'.state, h.state]
  dataSets id hother := by
    have hsame := h.dataSets id hother
    rw [← hsame]
    rw [← hsame] at hother
    exact h'.dataSets id hother
  rails id d hd hother rail hrail := by
    have hsame : t.state.dataSet? id = some d := by
      rw [h.dataSets id fun d' hd' => ?_, hd]
      cases hd.symm.trans hd'
      exact hother
    rw [h'.rails id d hsame hother rail hrail, h.rails id d hd hother rail hrail]
  size := h'.size.trans h.size
  accounts key hkey := (h'.accounts key hkey).trans (h.accounts key hkey)
  approvals key hkey := (h'.approvals key hkey).trans (h.approvals key hkey)
  payouts := h'.payouts.trans h.payouts
  funds token owner := (h'.funds token owner).trans (h.funds token owner)

theorem Reachable.confined_of_party (hs : Reachable s)
    (room : s.ledger.rails.size < UInt64.size) (hd : s.state.dataSet? id = some d)
    (hparty : d.HasParty X) (hstate : s'.state = { s.state with dataSets := s'.state.dataSets })
    (hdataSets : ∀ other, other ≠ id → s'.state.dataSet? other = s.state.dataSet? other)
    (hledger : s.ledger.Confined X d.railIds s'.ledger) : s.Confined X s' := by
  refine ⟨hstate, ?_, ?_, hledger.size, hledger.accounts, hledger.approvals, hledger.payouts,
    hledger.funds⟩
  · intro other hother
    apply hdataSets
    rintro rfl
    exact hother d hd hparty
  · intro other d' hd' hother rail hrail
    apply hledger.rails
    intro hmem
    have hentry := (hs.holderIs room hd hmem).2 other d' hd' hrail
    have hid : d'.id = d.id := congrArg DataSet.Entry.id hentry
    rw [(hs.indexed.dataSet other d' hd').id_eq, (hs.indexed.dataSet id d hd).id_eq] at hid
    subst hid
    cases hd.symm.trans hd'
    exact hother hparty

theorem Reachable.confined_terminateService (hs : Reachable s)
    (room : s.ledger.rails.size < UInt64.size)
    (hcall : s.call ⟨X, epoch⟩ (.terminateService id) = (answer, s')) : s.Confined X s' := by
  cases answer with
  | ok reply =>
    obtain ⟨endEpoch, t, h, hreply⟩ := succeeds_bind.mp (call_eq_ok_iff.mp hcall)
    obtain ⟨-, rfl⟩ := succeeds_pure.mp hreply
    obtain ⟨d, l, l', hd, hparty, -, hstorage, hegress, rfl⟩ := succeeds_terminateService.mp h
    refine hs.confined_of_party room hd hparty rfl ?_ (RailsTerminated.confined hstorage hegress)
    exact fun other hne => getElem?_insert_of_ne hne
  | error e =>
    obtain h | ⟨_, _, -, h⟩ := fails_bind.mp (call_eq_error_iff.mp hcall)
    · have hstate := (refusedWithin_terminateService s e s' h).state
      obtain rfl | ⟨d, hd, hparty, hledger⟩ :=
        refusedTo_terminateService (R := fun d => LedgerConfined X d.railIds)
          (fun d rail => confined_terminateRail) e s' h
      · exact .refl
      · refine hs.confined_of_party room hd hparty (by rw [hstate]) ?_ hledger
        intro other _
        rw [hstate]
    · exact absurd h (total_pure _ _ _)

theorem Reachable.confined_topUpEgress {cdnAmount cacheMissAmount : TokenAmount}
    (hs : Reachable s) (room : s.ledger.rails.size < UInt64.size)
    (hcall : s.call ⟨X, epoch⟩ (.topUpEgress id cdnAmount cacheMissAmount) = (answer, s')) :
    s.Confined X s' := by
  -- the lockup of the first rail is raised alone when the second one is refused
  have hraise {d : DataSet} {cdnRail cacheMissRail : RailId} {cdn cacheMiss : Rail}
      {cdnLockup cacheMissLockup : TokenAmount} {l : Ledger}
      (hchecked : TopUpChecked ⟨X, epoch⟩ id cdnAmount cacheMissAmount s d cdnRail cacheMissRail
        cdn cacheMiss cdnLockup cacheMissLockup)
      (hcdn : LockupRaised s.ledger cdnRail cdn cdnAmount cdnLockup l) :
      s.ledger.Confined X d.railIds l ∧
        (∀ l', LockupRaised l cacheMissRail cacheMiss cacheMissAmount cacheMissLockup l' →
          s.ledger.Confined X d.railIds l') := by
    have hd := hchecked.dataSet_eq
    obtain ⟨hcdnRail, hcacheMissRail, hne⟩ := egressRails_of_indexed hs.indexed hd
      hchecked.cdnRail_eq hchecked.cacheMissRail_eq
    have hpayer {rail : RailId} {r : Rail} (hrail : rail ∈ d.egressRails)
        (hr : s.ledger.rail? rail = some r) : r.payer = X := by
      obtain ⟨_, hr', -, hpayer⟩ := (hs.contracted room hd).egress rail hrail
      cases hr.symm.trans hr'
      exact hpayer.trans hchecked.caller.symm
    have hfirst : s.ledger.Confined X d.railIds l :=
      hcdn.confined hchecked.cdn_eq (hpayer hcdnRail hchecked.cdn_eq)
        (List.mem_cons_of_mem _ hcdnRail)
    refine ⟨hfirst, fun l' hcacheMiss => hfirst.trans ?_⟩
    have hr := hchecked.cacheMiss_eq
    rw [← rail?_of_lockupRaised hcdn hne] at hr
    exact hcacheMiss.confined hr (hpayer hcacheMissRail hchecked.cacheMiss_eq)
      (List.mem_cons_of_mem _ hcacheMissRail)
  cases answer with
  | ok reply =>
    obtain ⟨-, h⟩ := succeeds_done.mp (call_eq_ok_iff.mp hcall)
    obtain ⟨d, cdnRail, cacheMissRail, cdn, cacheMiss, cdnLockup, cacheMissLockup, l, l', hchecked,
      hcdn, hcacheMiss, rfl⟩ := succeeds_topUpEgress.mp h
    exact hs.confined_of_party room hchecked.dataSet_eq (.inl hchecked.caller) rfl
      (fun _ _ => rfl) ((hraise hchecked hcdn).2 l' hcacheMiss)
  | error e =>
    have h := fails_done.mp (call_eq_error_iff.mp hcall)
    obtain rfl | ⟨d, cdnRail, cacheMissRail, cdn, cacheMiss, cdnLockup, cacheMissLockup, l,
      hchecked, hcdn, rfl⟩ := refusedTo_topUpEgress e s' h
    · exact .refl
    · exact hs.confined_of_party room hchecked.dataSet_eq (.inl hchecked.caller) rfl
        (fun _ _ => rfl) (hraise hchecked hcdn).1

theorem call_eq_of_noRole (h : s.state.config.NoRole X)
    (hterminate : ∀ id, c ≠ .terminateService id)
    (htopUp : ∀ id cdnAmount cacheMissAmount, c ≠ .topUpEgress id cdnAmount cacheMissAmount) :
    ∃ e, s.call ⟨X, epoch⟩ c = (.error e, s) := by
  have hverifier : Fails (requireVerifier ⟨X, epoch⟩) s (.notVerifier X) s :=
    fails_of_caller h.verifier (fails_throw.mpr ⟨rfl, rfl⟩)
  have hpayments : Fails (requirePayments ⟨X, epoch⟩) s (.notPayments X) s :=
    fails_of_caller h.payments (fails_throw.mpr ⟨rfl, rfl⟩)
  have howner : Fails (requireOwner ⟨X, epoch⟩) s (.notOwner X) s :=
    fails_of_caller h.owner (fails_throw.mpr ⟨rfl, rfl⟩)
  have refused {call : ServiceM Unit} {e : ServiceError} {f : Unit → ServiceM Unit}
      (hfails : Fails call s e s) : Fails (done (call >>= f)) s e s :=
    fails_done.mpr (fails_bind.mpr (.inl hfails))
  cases c with
  | dataSetCreated => exact ⟨_, call_eq_error_iff.mpr (refused hverifier)⟩
  | piecesAdded => exact ⟨_, call_eq_error_iff.mpr (refused hverifier)⟩
  | piecesScheduledForRemoval => exact ⟨_, call_eq_error_iff.mpr (refused hverifier)⟩
  | possessionProven => exact ⟨_, call_eq_error_iff.mpr (refused hverifier)⟩
  | nextProvingPeriod => exact ⟨_, call_eq_error_iff.mpr (refused hverifier)⟩
  | dataSetDeleted => exact ⟨_, call_eq_error_iff.mpr (refused hverifier)⟩
  | providerChanged => exact ⟨_, call_eq_error_iff.mpr (refused hverifier)⟩
  | railTerminated => exact ⟨_, call_eq_error_iff.mpr (refused hpayments)⟩
  | arbitrate =>
    exact ⟨_, call_eq_error_iff.mpr (fails_bind.mpr (.inl (fails_bind.mpr (.inl hpayments))))⟩
  | terminateService id => exact absurd rfl (hterminate id)
  | topUpEgress id cdnAmount cacheMissAmount => exact absurd rfl (htopUp _ _ _)
  | settleEgress =>
    exact ⟨.notCdnController X, call_eq_error_iff.mpr (fails_done.mpr
      (fails_of_caller h.cdnController (fails_bind.mpr (.inl (fails_throw.mpr ⟨rfl, rfl⟩)))))⟩
  | approveProvider => exact ⟨_, call_eq_error_iff.mpr (refused howner)⟩
  | unapproveProvider => exact ⟨_, call_eq_error_iff.mpr (refused howner)⟩
  | setProvingParams => exact ⟨_, call_eq_error_iff.mpr (refused howner)⟩
  | setCommission => exact ⟨_, call_eq_error_iff.mpr (refused howner)⟩
  | setPricing => exact ⟨_, call_eq_error_iff.mpr (refused howner)⟩

theorem Reachable.confined_call (hs : Reachable s) (room : s.ledger.rails.size < UInt64.size)
    (hX : s.state.config.NoRole X) : s.Confined X (s.call ⟨X, epoch⟩ c).2 := by
  by_cases hterminate : ∃ id, c = .terminateService id
  · obtain ⟨id, rfl⟩ := hterminate
    exact hs.confined_terminateService room rfl
  by_cases htopUp : ∃ id cdnAmount cacheMissAmount, c = .topUpEgress id cdnAmount cacheMissAmount
  · obtain ⟨id, cdnAmount, cacheMissAmount, rfl⟩ := htopUp
    exact hs.confined_topUpEgress room rfl
  have hrefused : ∃ e, s.call ⟨X, epoch⟩ c = (.error e, s) :=
    call_eq_of_noRole hX (fun id heq => hterminate ⟨id, heq⟩)
      fun _ _ _ heq => htopUp ⟨_, _, _, heq⟩
  obtain ⟨e, hcall⟩ := hrefused
  rw [hcall]
  exact .refl

/--
Whatever an address calls that has no role in the configuration, only its own data sets, their
rails, and what it has locked up itself can change. Nothing else that the service knows changes,
and no funds move.
-/
theorem Reachable.confined_run (hs : Reachable s) (room : s.ledger.rails.size < UInt64.size)
    (hX : s.state.config.NoRole X) (calls : List (Epoch × Call)) :
    s.Confined X (s.run (calls.map fun (epoch, c) => .call ⟨X, epoch⟩ c)) := by
  -- every call starts from a service with the same configuration and as many rails
  induction calls generalizing s with
  | nil => exact .refl
  | cons call calls ih =>
    obtain ⟨epoch, c⟩ := call
    have hstep : s.Confined X (s.call ⟨X, epoch⟩ c).2 := hs.confined_call room hX
    refine hstep.trans (ih (hs.call rfl) ?_ ?_)
    · rw [hstep.size]
      exact room
    · rw [hstep.state]
      exact hX

def payerCalls : List (Epoch × Call) :=
  [(5, .topUpEgress 1 10 20), (6, .setCommission 1), (7, .terminateService 1),
    (8, .dataSetDeleted 1 0), (9, .settleEgress 1 1 1)]

theorem confined_run_payerCalls :
    cdnService.ledger.rails.size < UInt64.size ∧ cdnService.state.config.NoRole cdnPayer ∧
      cdnService.Confined cdnPayer
        (cdnService.run (payerCalls.map fun (epoch, c) => .call ⟨cdnPayer, epoch⟩ c)) ∧
      ((cdnService.run (payerCalls.map fun (epoch, c) =>
        .call ⟨cdnPayer, epoch⟩ c)).ledger.account 5 cdnPayer).locked = 130 := by
  have room : cdnService.ledger.rails.size < UInt64.size := by decide +kernel
  have hX : cdnService.state.config.NoRole cdnPayer :=
    ⟨by decide +kernel, by decide +kernel, by decide +kernel, by decide +kernel⟩
  exact ⟨room, hX, reachable_cdnService.confined_run room hX payerCalls, by decide +kernel⟩

end Service

end WarmStorage
