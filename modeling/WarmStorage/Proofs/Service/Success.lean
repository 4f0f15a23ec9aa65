import WarmStorage.Service.Call

/-!
What a call that succeeds went through. `Succeeds` is the relation between a service, a call of it,
the answer and the service after the call; each lemma says when a building block succeeds, so that
simplification takes a call apart step by step.
-/

namespace WarmStorage.ServiceM

variable {α β : Type} {s s' : Service} {a : α} {u : Unit}

/-- The call answers `a` and leaves the service `s'`. -/
def Succeeds (call : ServiceM α) (s : Service) (a : α) (s' : Service) : Prop :=
  call.run s = .ok a s'

@[simp]
theorem succeeds_pure {b : α} : Succeeds (pure a) s b s' ↔ b = a ∧ s' = s := by
  show EStateM.Result.ok a s = .ok b s' ↔ _
  rw [EStateM.Result.ok.injEq, eq_comm, eq_comm (a := s)]

@[simp]
theorem succeeds_bind {x : ServiceM α} {f : α → ServiceM β} {b : β} :
    Succeeds (x >>= f) s b s' ↔ ∃ a t, Succeeds x s a t ∧ Succeeds (f a) t b s' := by
  show EStateM.bind x f s = .ok b s' ↔ ∃ a t, x s = .ok a t ∧ f a t = .ok b s'
  unfold EStateM.bind
  cases x s with
  | ok a t =>
    constructor
    · intro h
      exact ⟨a, t, rfl, h⟩
    · rintro ⟨a', t', heq, h⟩
      cases heq
      exact h
  | error e t => simp

@[simp]
theorem succeeds_map {x : ServiceM α} {f : α → β} {b : β} :
    Succeeds (f <$> x) s b s' ↔ ∃ a, Succeeds x s a s' ∧ b = f a := by
  rw [map_eq_pure_bind, succeeds_bind]
  constructor
  · rintro ⟨a, t, h, hpure⟩
    obtain ⟨rfl, rfl⟩ := succeeds_pure.mp hpure
    exact ⟨a, h, rfl⟩
  · rintro ⟨a, h, rfl⟩
    exact ⟨a, s', h, succeeds_pure.mpr ⟨rfl, rfl⟩⟩

@[simp]
theorem succeeds_throw {e : ServiceError} : ¬ Succeeds (throw e : ServiceM α) s a s' := by
  intro h
  contradiction

@[simp]
theorem succeeds_get {t : Service} : Succeeds get s t s' ↔ t = s ∧ s' = s :=
  succeeds_pure

@[simp]
theorem succeeds_modify {f : Service → Service} : Succeeds (modify f) s u s' ↔ s' = f s := by
  show EStateM.Result.ok () (f s) = .ok u s' ↔ _
  rw [EStateM.Result.ok.injEq, eq_comm (a := f s)]
  exact and_iff_right rfl

@[simp]
theorem succeeds_ite {c : Prop} [Decidable c] {x y : ServiceM α} :
    Succeeds (if c then x else y) s a s' ↔
      c ∧ Succeeds x s a s' ∨ ¬ c ∧ Succeeds y s a s' := by
  split
  · simp [*]
  · simp [*]

theorem succeeds_guard {c : Prop} [Decidable c] {e : ServiceError} {f : β → ServiceM α}
    {x : ServiceM α} :
    Succeeds (if c then throw e >>= f else x) s a s' ↔ ¬ c ∧ Succeeds x s a s' := by
  simp

@[simp]
theorem succeeds_ofExcept {ε : Type} {wrap : ε → ServiceError} {x : Except ε α} :
    Succeeds (ofExcept wrap x) s a s' ↔ x = .ok a ∧ s' = s := by
  cases x with
  | ok b =>
    rw [ofExcept, succeeds_pure, Except.ok.injEq, eq_comm]
  | error e => simp [ofExcept]

@[simp]
theorem exists_unit_eq_ok {ε : Type} {x : Except ε Unit} : (∃ u, x = .ok u) ↔ x = .ok () := by
  constructor
  · rintro ⟨⟨⟩, h⟩
    exact h
  · intro h
    exact ⟨(), h⟩

@[simp]
theorem succeeds_state {t : ServiceState} : Succeeds state s t s' ↔ t = s.state ∧ s' = s := by
  simp [state, and_assoc, and_comm]

@[simp]
theorem succeeds_config {c : Config} : Succeeds config s c s' ↔ c = s.state.config ∧ s' = s := by
  simp [config, and_comm]

@[simp]
theorem succeeds_modifyState {f : ServiceState → ServiceState} :
    Succeeds (modifyState f) s u s' ↔ s' = { s with state := f s.state } :=
  succeeds_modify

@[simp]
theorem succeeds_ledgerCall {f : Ledger → Except LedgerError (α × Ledger)} :
    Succeeds (ledgerCall f) s a s' ↔
      ∃ l, f s.ledger = .ok (a, l) ∧ s' = { s with ledger := l } := by
  simp only [ledgerCall, succeeds_bind, succeeds_get, succeeds_ofExcept, succeeds_modify,
    succeeds_pure, and_assoc, exists_and_left, exists_eq_left]
  constructor
  · rintro ⟨⟨b, l⟩, hf, rfl, -, rfl⟩
    exact ⟨l, hf, rfl⟩
  · rintro ⟨l, hf, rfl⟩
    exact ⟨(a, l), hf, rfl, (), rfl⟩

@[simp]
theorem succeeds_ledgerChange {f : Ledger → Except LedgerError Ledger} :
    Succeeds (ledgerChange f) s u s' ↔
      ∃ l, f s.ledger = .ok l ∧ s' = { s with ledger := l } := by
  simp [ledgerChange, and_assoc]

@[simp]
theorem succeeds_emit {e : Event} :
    Succeeds (emit e) s u s' ↔ s' = { s with events := s.events ++ [e] } :=
  succeeds_modify

variable {ctx : CallContext} {id : DataSetId} {d : DataSet} {p : ProvingState}

@[simp]
theorem succeeds_requireVerifier : Succeeds (requireVerifier ctx) s u s' ↔
    ctx.caller = s.state.config.verifier ∧ s' = s := by
  simp [requireVerifier, and_assoc]

@[simp]
theorem succeeds_requirePayments : Succeeds (requirePayments ctx) s u s' ↔
    ctx.caller = s.state.config.payments ∧ s' = s := by
  simp [requirePayments, and_assoc]

@[simp]
theorem succeeds_requireOwner : Succeeds (requireOwner ctx) s u s' ↔
    ctx.caller = s.state.config.owner ∧ s' = s := by
  simp [requireOwner, and_assoc]

@[simp]
theorem succeeds_dataSet : Succeeds (dataSet id) s d s' ↔
    s.state.dataSet? id = some d ∧ s' = s := by
  simp only [dataSet, succeeds_bind, succeeds_state, and_assoc, exists_and_left, exists_eq_left]
  cases s.state.dataSet? id with
  | none => simp
  | some d' => simp [eq_comm]

@[simp]
theorem succeeds_proving : Succeeds (proving id) s p s' ↔
    s.state.proving? id = some p ∧ s' = s := by
  simp only [proving, succeeds_bind, succeeds_state, and_assoc, exists_and_left, exists_eq_left]
  cases s.state.proving? id with
  | none => simp
  | some p' => simp [eq_comm]

@[simp]
theorem succeeds_setDataSet : Succeeds (setDataSet id d) s u s' ↔
    s' = { s with state := { s.state with dataSets := s.state.dataSets.insert id d } } :=
  succeeds_modifyState

@[simp]
theorem succeeds_setProving : Succeeds (setProving id p) s u s' ↔
    s' = { s with state := { s.state with proving := s.state.proving.insert id p } } :=
  succeeds_modifyState

@[simp]
theorem succeeds_requireNotPastEnd : Succeeds (requireNotPastEnd ctx id d) s u s' ↔
    d.isPastEnd ctx.epoch = false ∧ s' = s := by
  simp [requireNotPastEnd]

@[simp]
theorem succeeds_requireSigned {m : Message} {signature : List UInt8} {payer : Address} :
    Succeeds (requireSigned ctx m signature payer) s u s' ↔
      (∃ signer, s.signingContext.verify m signature payer s.sessionKeys ctx.epoch = .ok signer) ∧
        s' = s := by
  simp [requireSigned, and_assoc]

@[simp]
theorem succeeds_approvedProvider {serviceProvider : Address} {provider : ProviderId} :
    Succeeds (approvedProvider serviceProvider) s provider s' ↔
      s.providers.id? serviceProvider = some provider ∧ s.providers.isActive provider = true ∧
        s.state.isApproved provider = true ∧ s' = s := by
  simp only [approvedProvider, succeeds_bind, succeeds_get, and_assoc, exists_and_left,
    exists_eq_left]
  cases s.providers.id? serviceProvider with
  | none => simp
  | some provider' =>
    by_cases heq : provider' = provider
    · subst heq
      simp
    · simp [heq, Ne.symm heq]

theorem call_eq_ok_iff {c : Call} {reply : Reply} : s.call ctx c = (.ok reply, s') ↔
    Succeeds (perform ctx c) s reply s' := by
  unfold Service.call Succeeds
  cases (perform ctx c).run s with
  | ok reply' t => simp
  | error e t => simp

@[simp]
theorem succeeds_done {call : ServiceM Unit} {reply : Reply} :
    Succeeds (done call) s reply s' ↔ reply = .done ∧ Succeeds call s () s' := by
  simp only [done, succeeds_bind, succeeds_pure]
  constructor
  · rintro ⟨⟨⟩, t, h, rfl, rfl⟩
    exact ⟨rfl, h⟩
  · rintro ⟨rfl, h⟩
    exact ⟨(), s', h, rfl, rfl⟩

end WarmStorage.ServiceM
