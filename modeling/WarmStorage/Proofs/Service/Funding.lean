import WarmStorage.Proofs.Ledger.Admission
import WarmStorage.Proofs.Service.Creation
import WarmStorage.Proofs.Service.Lifecycle

/-!
What is settled once the funds of a payer were examined. Opening the rails of a new data set takes
from the allowance of the service and from the funds of the payer, and what was examined before
covers every step. In the same way rails that are live and different are terminated one by one.
-/

namespace WarmStorage

theorem Rail.toNat_lockup_of_rate_eq_zero {r : Rail} (h : r.rate = 0) :
    r.lockup.toNat = r.lockupFixed.toNat := by
  have := r.lockupFixed.isLt
  rw [lockup, h, UInt256.toNat_clampAdd, UInt256.toNat_clampMul]
  simp
  omega

namespace Ledger

variable {l l' : Ledger} {token client operator : Address} {period max : UInt64} {need rest : Nat}
  {terms : RailTerms} {fixed amount : TokenAmount} {a : Approval} {c : Account} {id other : RailId}
  {epoch endEpoch : Epoch} {r : Rail}

theorem Affords.open (terms : RailTerms)
    (h : l.Affords terms.token terms.payer terms.operator max (fixed.toNat + rest))
    (hperiod : period ≤ max) :
    ∃ l', ServiceM.RailOpened l terms period fixed (l.lastRail + 1) l' ∧
      l'.Affords terms.token terms.payer terms.operator max rest := by
  let old : Rail := { toRailTerms := terms }
  let new : Rail := { toRailTerms := terms, lockupPeriod := period, lockupFixed := fixed }
  let m : Ledger := { l with
    lastRail := l.lastRail + 1
    rails := l.rails.insert (l.lastRail + 1) old }
  have hcreate : l.createRail terms = .ok (l.lastRail + 1, m) :=
    createRail_eq_ok_iff.mpr ⟨h.approved, rfl, rfl⟩
  have hrail : m.rail? (l.lastRail + 1) = some old := by
    rw [rail?_of_insert rfl, if_pos rfl]
  have hold : old.rate = 0 ∧ old.lockup.toNat = 0 :=
    ⟨rfl, Rail.toNat_lockup_of_rate_eq_zero rfl⟩
  have hneed : new.lockup.toNat = fixed.toNat := Rail.toNat_lockup_of_rate_eq_zero rfl
  have haffords : m.Affords new.token new.payer new.operator max (new.lockup.toNat + rest) := by
    rw [hneed]
    exact ⟨h.approved, h.period, h.allowance, h.funds⟩
  obtain ⟨l', hchange, hrest⟩ := haffords.changeRail (l.lastRail + 1) (by rfl) hold rfl hperiod
  have hlockup : m.modifyLockup (l.lastRail + 1) period fixed = .ok l' :=
    modifyLockup_eq_ok_iff.mpr ⟨old, hrail, rfl, hchange⟩
  exact ⟨l', ⟨m, hcreate, hlockup⟩, hrest⟩

def IsLive (l : Ledger) (id : RailId) : Prop :=
  ∃ r, l.rail? id = some r ∧ r.isTerminated = false

theorem IsLive.exists_terminate (h : l.IsLive id) (epoch : Epoch) :
    ∃ endEpoch l', l.terminate id epoch = .ok (endEpoch, l') := by
  obtain ⟨r, hr, hlive⟩ := h
  exact ⟨_, _, terminate_eq_ok_iff.mpr ⟨r, hr, hlive, rfl, rfl⟩⟩

theorem IsLive.of_terminate (h : l.IsLive other) (hne : id ≠ other)
    (hterminate : l.terminate id epoch = .ok (endEpoch, l')) : l'.IsLive other := by
  obtain ⟨r, hr, hlive⟩ := h
  obtain ⟨-, -, -, -, rfl⟩ := terminate_eq_ok_iff.mp hterminate
  refine ⟨r, ?_, hlive⟩
  rw [rail?_of_insert rfl, if_neg hne]
  exact hr

theorem exists_railsTerminated {rails : List RailId} (live : ∀ rail ∈ rails, l.IsLive rail)
    (nodup : rails.Nodup) : ∃ l', ServiceM.RailsTerminated epoch rails l l' := by
  induction rails generalizing l with
  | nil => exact ⟨l, rfl⟩
  | cons rail rails ih =>
    rw [List.nodup_cons] at nodup
    rw [List.forall_mem_cons] at live
    obtain ⟨endEpoch, m, hterminate⟩ := live.1.exists_terminate epoch
    have hrest : ∀ other ∈ rails, m.IsLive other := by
      intro other hother
      apply (live.2 other hother).of_terminate _ hterminate
      rintro rfl
      exact nodup.1 hother
    obtain ⟨l', hl'⟩ := ih hrest nodup.2
    exact ⟨l', endEpoch, m, hterminate, hl'⟩

end Ledger

theorem Config.toNat_requiredLockup {c : Config} {withCdn : Bool} {required : TokenAmount}
    (h : c.requiredLockup withCdn = .ok required) :
    ∃ storage, c.pricing.minimumLockup c.lockupPeriod = .ok storage ∧
      required.toNat = storage.toNat +
        if withCdn then c.pricing.cacheMissLockup.toNat + c.pricing.cdnLockup.toNat else 0 := by
  unfold requiredLockup at h
  split at h
  · contradiction
  · rename_i storage hstorage
    refine ⟨storage, hstorage, ?_⟩
    cases withCdn with
    | false =>
      cases h
      rfl
    | true =>
      rw [if_pos rfl] at h ⊢
      split at h
      · contradiction
      · rename_i sum hsum
        cases h
        obtain ⟨partial', hcdn, hcacheMiss⟩ := Option.bind_eq_some_iff.mp hsum
        rw [UInt256.exactAdd?, UInt256.fit?_eq_some_iff] at hcdn hcacheMiss
        omega

theorem Config.affords_of_checkFunding {c : Config} {l : Ledger} {payer : Address} {withCdn : Bool}
    (h : c.checkFunding payer (l.approval c.token payer c.serviceAddress)
      (l.account c.token payer) withCdn = .ok ()) :
    ∃ required, c.requiredLockup withCdn = .ok required ∧
      l.Affords c.token payer c.serviceAddress c.lockupPeriod required.toNat := by
  unfold checkFunding at h
  split at h
  · contradiction
  · obtain ⟨required, hrequired, h⟩ := Ledger.bind_eq_ok_iff.mp h
    simp only [Ledger.guard_eq_ok_iff] at h
    obtain ⟨happroved, -, hlockup, hperiod, hfunds⟩ := h
    have hcovered : ¬ (l.account c.token payer).available < required := by
      intro hlt
      rw [if_pos hlt] at hfunds
      contradiction
    rw [Bool.not_eq_true', Bool.not_eq_false] at happroved
    exact ⟨required, hrequired, happroved, UInt64.not_lt.mp hperiod, BitVec.not_lt.mp hlockup,
      BitVec.not_lt.mp hcovered⟩

theorem ServiceM.exists_railsOpened {c : Config} {l : Ledger} {payer payee : Address}
    {withCdn : Bool}
    (h : c.checkFunding payer (l.approval c.token payer c.serviceAddress)
      (l.account c.token payer) withCdn = .ok ()) :
    ∃ storageRail egress l',
      RailsOpened l c (storageTerms c payer payee) withCdn storageRail egress l' := by
  obtain ⟨required, hrequired, hafford⟩ := c.affords_of_checkFunding h
  let terms := storageTerms c payer payee
  cases withCdn with
  | false =>
    have hstorage : l.Affords c.token payer c.serviceAddress c.lockupPeriod
        ((0 : TokenAmount).toNat + 0) :=
      hafford.mono (Nat.zero_le _)
    obtain ⟨m, hstorage, -⟩ := hstorage.open terms (UInt64.le_refl _)
    exact ⟨_, (none, none), m, m, hstorage, .inr ⟨rfl, rfl, rfl⟩⟩
  | true =>
    have hstorage : l.Affords c.token payer c.serviceAddress c.lockupPeriod
        ((0 : TokenAmount).toNat +
          (c.pricing.cacheMissLockup.toNat + (c.pricing.cdnLockup.toNat + 0))) := by
      apply hafford.mono
      obtain ⟨storage, -, hsum⟩ := c.toNat_requiredLockup hrequired
      rw [if_pos rfl] at hsum
      simp
      omega
    obtain ⟨m, hstorage, hrest⟩ := hstorage.open terms (UInt64.le_refl _)
    obtain ⟨m', hcacheMiss, hrest⟩ := hrest.open { terms with commissionBps := 0 } UInt64.zero_le
    obtain ⟨l', hcdn, -⟩ := hrest.open
      { terms with commissionBps := 0, payee := c.cdnBeneficiary } UInt64.zero_le
    exact ⟨_, _, l', m, hstorage, .inl ⟨rfl, _, _, m', rfl, hcacheMiss, hcdn⟩⟩

theorem ServiceM.exists_liveEgressTerminated {l m : Ledger} {d : DataSet} {epoch endEpoch : Epoch}
    (h : l.terminate d.storageRail epoch = .ok (endEpoch, m)) (nodup : d.railIds.Nodup) :
    ∃ l', RailsTerminated epoch (liveEgress l d) m l' := by
  rw [Deal.railIds, List.nodup_cons] at nodup
  apply Ledger.exists_railsTerminated
  · intro rail hrail
    obtain ⟨hegress, hlive⟩ := List.mem_filter.mp hrail
    have hlive : l.IsLive rail := by
      unfold Ledger.IsLive
      cases hr : l.rail? rail with
      | none =>
        rw [hr] at hlive
        contradiction
      | some r =>
        rw [hr] at hlive
        exact ⟨r, rfl, by simpa using hlive⟩
    -- the storage rail is no rail for egress, so they are all left as they were
    apply hlive.of_terminate _ h
    rintro heq
    rw [heq] at nodup
    exact nodup.1 hegress
  · exact nodup.2.filter _

end WarmStorage
