import WarmStorage.Proofs.Service.Dealings
import WarmStorage.Proofs.Service.Run

/-!
What data sets and their rails agree on. A data set keeps the contract that it was created with, and
so do its rails, whoever changes them otherwise. A rail stays with the data set that it was opened
for: once that is gone no other data set gets it.
-/

namespace WarmStorage

namespace ServiceM

section Rails

variable {l l' : Ledger} {c : Config} {terms : RailTerms} {period : UInt64} {fixed : TokenAmount}
  {rail other : RailId} {withCdn : Bool} {egress : Option RailId × Option RailId}

theorem RailOpened.rail? (h : RailOpened l terms period fixed rail l') (other : RailId) :
    l'.rail? other =
      if rail = other then some { terms with lockupPeriod := period, lockupFixed := fixed }
      else l.rail? other := by
  obtain ⟨m, hcreate, hlockup⟩ := h
  have hm := Ledger.rail?_of_createRail hcreate
  obtain ⟨r, hr, -, hl'⟩ := Ledger.rail?_of_modifyLockup hlockup
  rw [hm rail, if_pos rfl, Option.some.injEq] at hr
  subst hr
  rw [hl' other]
  split
  · rfl
  · rename_i hne
    rw [hm other, if_neg hne]

theorem EgressOpened.rails (h : EgressOpened l c terms egress l') :
    l'.rail? (l.lastRail + 1) = some { terms with
      commissionBps := 0
      lockupFixed := c.pricing.cacheMissLockup } ∧
    l'.rail? (l.lastRail + 2) = some { terms with
      commissionBps := 0
      payee := c.cdnBeneficiary
      lockupFixed := c.pricing.cdnLockup } ∧
    egress = (some (l.lastRail + 1), some (l.lastRail + 2)) ∧
    ∀ other, other ≠ l.lastRail + 1 → other ≠ l.lastRail + 2 → l'.rail? other = l.rail? other := by
  obtain ⟨cacheMissRail, cdnRail, m, rfl, hcacheMiss, hcdn⟩ := h
  have hm := hcacheMiss.rail?
  have hl' := hcdn.rail?
  obtain ⟨rfl, hlast⟩ := hcacheMiss.numbers
  have hrail := hcdn.numbers.1
  rw [hlast, UInt64.add_assoc] at hrail
  have hrail : cdnRail = l.lastRail + 2 := hrail
  subst hrail
  refine ⟨?_, ?_, rfl, ?_⟩
  · rw [hl', if_neg (by simp), hm, if_pos rfl]
  · rw [hl', if_pos rfl]
  · intro other hcacheMiss hcdn
    rw [hl', if_neg hcdn.symm, hm, if_neg hcacheMiss.symm]

theorem RailsOpened.rail?_storage (h : RailsOpened l c terms withCdn rail egress l') :
    l'.rail? rail = some { terms with lockupPeriod := c.lockupPeriod } := by
  obtain ⟨m, hstorage, ⟨-, hegress⟩ | ⟨-, -, rfl⟩⟩ := h
  · obtain ⟨rfl, hlast⟩ := hstorage.numbers
    rw [hegress.rails.2.2.2, hstorage.rail?, if_pos rfl]
    · simp [hlast]
    · simp [hlast]
  · rw [hstorage.rail?, if_pos rfl]

theorem RailsOpened.exists_egress (h : RailsOpened l c terms withCdn rail egress l')
    (hother : other ∈ egress.1.toList ++ egress.2.toList) :
    ∃ payee fixed, l'.rail? other =
      some { terms with commissionBps := 0, payee := payee, lockupFixed := fixed } := by
  obtain ⟨m, -, ⟨-, hegress⟩ | ⟨-, rfl, -⟩⟩ := h
  · obtain ⟨hcacheMiss, hcdn, rfl, -⟩ := hegress.rails
    simp only [Option.toList_some, List.cons_append, List.nil_append, List.mem_cons,
      List.not_mem_nil, or_false] at hother
    obtain rfl | rfl := hother
    · exact ⟨_, _, hcacheMiss⟩
    · exact ⟨_, _, hcdn⟩
  · simp at hother

theorem RailsOpened.rail?_egress (h : RailsOpened l c terms withCdn rail egress l')
    (hother : other ∈ egress.1.toList ++ egress.2.toList) :
    ∃ r, l'.rail? other = some r ∧ r.token = terms.token ∧ r.payer = terms.payer ∧
      r.lockupPeriod = 0 := by
  obtain ⟨payee, fixed, hr⟩ := h.exists_egress hother
  exact ⟨_, hr, rfl, rfl, rfl⟩

theorem RailsOpened.exists_live (h : RailsOpened l c terms withCdn rail egress l')
    (hother : other ∈ rail :: (egress.1.toList ++ egress.2.toList)) :
    ∃ r, l'.rail? other = some r ∧ r.isTerminated = false := by
  obtain rfl | hegress := List.mem_cons.mp hother
  · exact ⟨_, h.rail?_storage, rfl⟩
  · obtain ⟨payee, fixed, hr⟩ := h.exists_egress hegress
    exact ⟨_, hr, rfl⟩

theorem RailsOpened.rail?_other (h : RailsOpened l c terms withCdn rail egress l')
    (hother : other ∉ rail :: (egress.1.toList ++ egress.2.toList)) :
    l'.rail? other = l.rail? other := by
  obtain ⟨m, hstorage, ⟨-, cacheMissRail, cdnRail, m', rfl, hcacheMiss, hcdn⟩ | ⟨-, rfl, rfl⟩⟩ := h
  · simp only [Option.toList_some, List.cons_append, List.nil_append, List.mem_cons,
      List.not_mem_nil, or_false, not_or, eq_comm (a := other)] at hother
    rw [hcdn.rail?, if_neg hother.2.2, hcacheMiss.rail?, if_neg hother.2.1, hstorage.rail?,
      if_neg hother.1]
  · simp only [Option.toList_none, List.append_nil, List.mem_singleton, eq_comm (a := other)]
      at hother
    rw [hstorage.rail?, if_neg hother]

end Rails

end ServiceM

namespace Service

open ServiceM

variable {s s' : Service} {id : DataSetId} {d d' : DataSet} {m : Move} {moves : List Move}
  {rail : RailId}

structure Contracted (s : Service) (d : DataSet) : Prop where
  storage : ∃ r, s.ledger.rail? d.storageRail = some r ∧ r.toRailTerms =
    { storageTerms s.state.config d.payer d.payee with commissionBps := d.commissionBps }
  egress : ∀ rail ∈ d.egressRails, ∃ r, s.ledger.rail? rail = some r ∧
    r.token = s.state.config.token ∧ r.payer = d.payer

theorem Contracted.of_keepsRails (h : s.Contracted d) (contract : d'.contract = d.contract)
    (parties : s.state.config.SameParties s'.state.config)
    (rails : s.ledger.KeepsRails s'.ledger) : s'.Contracted d' := by
  have hegress := DataSet.egressRails_of_contract contract
  injection contract with hpayer hpayee hcommission hstorage
  constructor
  · obtain ⟨r, hr, hterms⟩ := h.storage
    obtain ⟨r', hr', hsame, -⟩ := rails _ r hr
    refine ⟨r', ?_, ?_⟩
    · rw [hstorage]
      exact hr'
    · rw [hsame, hterms, hpayer, hpayee, hcommission, parties]
      rfl
  · intro rail hrail
    rw [hegress] at hrail
    obtain ⟨r, hr, htoken, hrpayer⟩ := h.egress rail hrail
    obtain ⟨r', hr', hsame, -⟩ := rails _ r hr
    refine ⟨r', hr', ?_, ?_⟩
    · rw [hsame, htoken, parties]
    · rw [hsame, hrpayer, hpayer]

theorem contracted_of_railsOpened {withCdn : Bool}
    (parties : s.state.config.SameParties s'.state.config)
    (commissionBps : d.commissionBps = s.state.config.commissionBps)
    (h : RailsOpened s.ledger s.state.config (storageTerms s.state.config d.payer d.payee) withCdn
      d.storageRail (d.cacheMissRail, d.cdnRail) s'.ledger) : s'.Contracted d := by
  constructor
  · refine ⟨_, h.rail?_storage, ?_⟩
    rw [commissionBps, parties]
    rfl
  · intro rail hrail
    obtain ⟨r, hr, htoken, hpayer, -⟩ := h.rail?_egress hrail
    refine ⟨r, hr, ?_, hpayer⟩
    rw [htoken, parties]
    rfl

theorem Reachable.keepsRails (h : Reachable s) (reaches : s.ledger.Reaches s'.ledger)
    (room : s'.ledger.rails.size < UInt64.size) : s.ledger.KeepsRails s'.ledger :=
  reaches.keepsRails (h.numbered (Nat.lt_of_le_of_lt reaches.size_le room)) room

theorem Reachable.contracted (h : Reachable s) (room : s.ledger.rails.size < UInt64.size)
    (hd : s.state.dataSet? id = some d) : s.Contracted d := by
  induction h generalizing id d with
  | new h =>
    rw [dataSet?_of_new h] at hd
    contradiction
  | call h hcall ih =>
    have reaches := reaches_of_call hcall
    have rails := h.keepsRails reaches room
    have room' := Nat.lt_of_le_of_lt reaches.size_le room
    obtain ⟨parties, -, dataSets⟩ := outcome_of_call h.indexed hcall
    obtain ⟨d', hd', contract⟩ | ⟨_, commissionBps, hrails⟩ :=
      (dataSets id d hd).contract_or_created
    · exact (ih room' hd').of_keepsRails contract parties rails
    · exact contracted_of_railsOpened parties commissionBps hrails
  | operate op h ih =>
    have room' := Nat.lt_of_le_of_lt Ledger.reaches_operate.size_le room
    have rails := Ledger.reaches_operate.keepsRails (h.numbered room') room
    exact (ih room' hd).of_keepsRails rfl rfl rails
  | outside providers sessionKeys _ ih => exact (ih room hd).of_keepsRails rfl rfl .refl
  | takeEvents _ ih => exact (ih room hd).of_keepsRails rfl rfl .refl

def HolderIs (s : Service) (rail : RailId) (P : DataSet.Entry → Prop) : Prop :=
  (s.ledger.rail? rail).isSome = true ∧
    ∀ id d, s.state.dataSet? id = some d → rail ∈ d.railIds → P d.entry

theorem Reachable.holderIs (h : Reachable s) (room : s.ledger.rails.size < UInt64.size)
    (hd : s.state.dataSet? id = some d) (hrail : rail ∈ d.railIds) :
    s.HolderIs rail (· = d.entry) := by
  have indexed := h.railsIndexed room
  have howner : s.state.HasRail id rail := ⟨d, hd, hrail⟩
  refine ⟨indexed.opened rail id howner, ?_⟩
  intro other d' hd' hrail'
  have heq := (indexed.owner_iff rail other).mpr ⟨d', hd', hrail'⟩
  rw [(indexed.owner_iff rail id).mpr howner, Option.some.injEq] at heq
  rw [heq, hd', Option.some.injEq] at hd
  rw [hd]

theorem Reachable.exists_rail (h : Reachable s) (room : s.ledger.rails.size < UInt64.size)
    (hd : s.state.dataSet? id = some d) (hrail : rail ∈ d.railIds) :
    ∃ r, s.ledger.rail? rail = some r :=
  Option.isSome_iff_exists.mp (h.holderIs room hd hrail).1

variable {P : DataSet.Entry → Prop}

theorem HolderIs.of_quiet (h : s.HolderIs rail P) (same : s.state.SameIndex s'.state)
    (reaches : s.ledger.Reaches s'.ledger) : s'.HolderIs rail P := by
  refine ⟨reaches.isSome_rail? h.1, ?_⟩
  intro id d' hd' hrail
  obtain ⟨d, hd, hentry⟩ := same.entry hd'
  rw [DataSet.railIds_of_entry hentry] at hrail
  rw [hentry]
  exact h.2 id d hd hrail

theorem HolderIs.effect {epoch : Epoch} (h : s.HolderIs rail P) (heffect : Effect epoch s s')
    (reaches : s.ledger.Reaches s'.ledger) (numbered : s.ledger.Numbered)
    (numbered' : s'.ledger.Numbered) : s'.HolderIs rail P := by
  -- a rail gets no new data set, since new data sets have new rails
  cases heffect with
  | quiet quiet => exact h.of_quiet quiet.toSameIndex reaches
  | stepped hp accepted epoch_eq eq =>
    apply h.of_quiet _ reaches
    rw [eq]
    exact ServiceState.sameIndex_insert_proving
  | created unused newClientId rails eq =>
    refine ⟨reaches.isSome_rail? h.1, ?_⟩
    intro id d' hd' hrail
    rw [eq, ServiceState.dataSet?_registered] at hd'
    split at hd'
    · -- the rails of the new data set lie beyond all that were opened before
      cases hd'
      have hle : s.ledger.lastRail.toNat ≤ s'.ledger.lastRail.toNat := by
        rw [← numbered.size_eq, ← numbered'.size_eq]
        exact reaches.size_le
      have hlt := rails.lt hle hrail
      have hopened := (numbered.isSome_rail?_iff rail).mp h.1
      omega
    · exact h.2 id d' hd' hrail
  | deleted hd eq =>
    refine ⟨reaches.isSome_rail? h.1, ?_⟩
    intro id d' hd' hrail
    rw [eq, ServiceState.dataSet?_withoutDataSet] at hd'
    split at hd'
    · contradiction
    · exact h.2 id d' hd' hrail

theorem Reachable.holderIs_move (hs : Reachable s) (h : s.HolderIs rail P)
    (room : (s.move m).ledger.rails.size < UInt64.size) : (s.move m).HolderIs rail P := by
  have reaches : s.ledger.Reaches (s.move m).ledger := reaches_move
  obtain ⟨ctx, c, rfl⟩ | ⟨op, rfl⟩ | ⟨hstate, -⟩ := move_cases (s := s) m
  · have heffect : Effect ctx.epoch s (s.move (.call ctx c)) := by
      rw [move_call]
      exact effect_of_call rfl
    have numbered := hs.numbered (Nat.lt_of_le_of_lt reaches.size_le room)
    exact h.effect heffect reaches numbered (hs.move.numbered room)
  · exact h.of_quiet ServiceState.Quiet.refl.toSameIndex reaches
  · apply h.of_quiet _ reaches
    rw [hstate]
    exact ServiceState.Quiet.refl.toSameIndex

theorem Reachable.holderIs_run (hs : Reachable s) (h : s.HolderIs rail P)
    (room : (s.run moves).ledger.rails.size < UInt64.size) : (s.run moves).HolderIs rail P := by
  induction moves generalizing s with
  | nil => exact h
  | cons m moves ih =>
    have room' := Nat.lt_of_le_of_lt (reaches_run (s.move m) moves).size_le room
    exact ih hs.move (hs.holderIs_move h room') room

end Service

end WarmStorage
