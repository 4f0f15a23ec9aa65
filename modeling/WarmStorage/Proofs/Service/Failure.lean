import Mathlib.Order.Defs.Unbundled
import WarmStorage.Proofs.Ledger.Effects
import WarmStorage.Proofs.Service.Success

/-!
What a refused call may have changed. `Fails` is the relation between a service, a call of it, the
error and the service that is left. A part of a call stays within a relation between services when
it leaves a related service in every case, and is refused within it when it does so whenever it
fails: parts that stay within the relation may come before parts that are refused within it, and
parts that cannot fail may follow.
-/

namespace WarmStorage.ServiceM

variable {α β : Type} {s s' : Service} {a : α} {u : Unit} {e : ServiceError}

def Fails (call : ServiceM α) (s : Service) (e : ServiceError) (s' : Service) : Prop :=
  call.run s = .error e s'

theorem Fails.not_succeeds {call : ServiceM α} {t : Service} (h : Fails call s e s') :
    ¬ Succeeds call s a t := by
  intro hsucceeds
  have heq := hsucceeds.symm.trans h
  contradiction

theorem fails_throw {e' : ServiceError} :
    Fails (throw e' : ServiceM α) s e s' ↔ e = e' ∧ s' = s := by
  show EStateM.Result.error e' s = .error e s' ↔ _
  rw [EStateM.Result.error.injEq, eq_comm, eq_comm (a := s)]

theorem fails_bind {x : ServiceM α} {f : α → ServiceM β} :
    Fails (x >>= f) s e s' ↔
      Fails x s e s' ∨ ∃ a t, Succeeds x s a t ∧ Fails (f a) t e s' := by
  show EStateM.bind x f s = .error e s' ↔
    x s = .error e s' ∨ ∃ a t, x s = .ok a t ∧ f a t = .error e s'
  unfold EStateM.bind
  cases x s with
  | ok a t =>
    constructor
    · intro h
      exact .inr ⟨a, t, rfl, h⟩
    · rintro (h | ⟨a', t', heq, h⟩)
      · contradiction
      · cases heq
        exact h
  | error e' t => simp

theorem fails_bind_of_succeeds {x : ServiceM α} {f : α → ServiceM β} {t : Service}
    (hx : Succeeds x s a t) : Fails (x >>= f) s e s' ↔ Fails (f a) t e s' := by
  have hx : x s = .ok a t := hx
  show EStateM.bind x f s = .error e s' ↔ f a t = .error e s'
  rw [EStateM.bind, hx]

@[simp]
theorem fails_pure : ¬ Fails (pure a : ServiceM α) s e s' := by
  intro h
  contradiction

@[simp]
theorem fails_ofExcept {ε : Type} {wrap : ε → ServiceError} {x : Except ε α} :
    Fails (ofExcept wrap x) s e s' ↔ ∃ e₀, x = .error e₀ ∧ e = wrap e₀ ∧ s' = s := by
  cases x with
  | ok a => simp [ofExcept]
  | error e₀ => simp [ofExcept, fails_throw]

theorem fails_get_bind {f : Service → ServiceM α} :
    Fails (get >>= f) s e s' ↔ Fails (f s) s e s' :=
  fails_bind_of_succeeds (succeeds_get.mpr ⟨rfl, rfl⟩)

theorem fails_ledgerCall {f : Ledger → Except LedgerError (α × Ledger)} :
    Fails (ledgerCall f) s e s' ↔ ∃ e₀, f s.ledger = .error e₀ ∧ e = .ledger e₀ ∧ s' = s := by
  rw [ledgerCall, fails_get_bind, fails_bind, fails_ofExcept, or_iff_left]
  rintro ⟨⟨b, l⟩, t, -, h⟩
  contradiction

theorem fails_ledgerChange {f : Ledger → Except LedgerError Ledger} :
    Fails (ledgerChange f) s e s' ↔ ∃ e₀, f s.ledger = .error e₀ ∧ e = .ledger e₀ ∧ s' = s := by
  rw [ledgerChange, fails_get_bind, fails_bind, fails_ofExcept, or_iff_left]
  rintro ⟨l, t, -, h⟩
  contradiction

theorem fails_requirePayments {ctx : CallContext} : Fails (requirePayments ctx) s e s' ↔
    ctx.caller ≠ s.state.config.payments ∧ e = .notPayments ctx.caller ∧ s' = s := by
  show Fails (if ctx.caller ≠ s.state.config.payments then throw (.notPayments ctx.caller)
    else pure ()) s e s' ↔ _
  split
  · rw [fails_throw]
    simp [*]
  · simp [*]

theorem call_eq_error_iff {ctx : CallContext} {c : Call} : s.call ctx c = (.error e, s') ↔
    Fails (perform ctx c) s e s' := by
  unfold Service.call Fails
  cases (perform ctx c).run s with
  | ok reply t => simp
  | error e' t => simp

def Total (call : ServiceM α) : Prop :=
  ∀ s e s', ¬ Fails call s e s'

theorem total_pure : Total (pure a : ServiceM α) := by
  intro s e s' h
  contradiction

theorem total_modify {f : Service → Service} : Total (modify f : ServiceM PUnit) := by
  intro s e s' h
  contradiction

theorem Total.bind {x : ServiceM α} {f : α → ServiceM β} (hx : Total x) (hf : ∀ a, Total (f a)) :
    Total (x >>= f) := by
  intro s e s' h
  obtain h | ⟨a, t, -, h⟩ := fails_bind.mp h
  · exact hx _ _ _ h
  · exact hf _ _ _ _ h

theorem fails_bind_total {x : ServiceM α} {f : α → ServiceM β} (hf : ∀ a, Total (f a)) :
    Fails (x >>= f) s e s' ↔ Fails x s e s' := by
  rw [fails_bind, or_iff_left]
  rintro ⟨a, t, -, h⟩
  exact hf a t e s' h

theorem Total.ite {c : Prop} [Decidable c] {x y : ServiceM α} (hx : Total x) (hy : Total y) :
    Total (if c then x else y) := by
  split
  · exact hx
  · exact hy

theorem total_modifyState {f : ServiceState → ServiceState} : Total (modifyState f) :=
  total_modify

theorem total_emit {event : Event} : Total (emit event) :=
  total_modify

variable {R : Service → Service → Prop}

/-- Whenever the call is refused, the service that is left is related to the one before. -/
def RefusedWithin (R : Service → Service → Prop) (call : ServiceM α) : Prop :=
  ∀ s e s', Fails call s e s' → R s s'

structure Within (R : Service → Service → Prop) (call : ServiceM α) : Prop where
  refused : RefusedWithin R call
  done : ∀ s a s', Succeeds call s a s' → R s s'

theorem Total.refusedWithin {x : ServiceM α} (h : Total x) : RefusedWithin R x :=
  fun _ _ _ hfails => absurd hfails (h _ _ _)

theorem RefusedWithin.bind_total {x : ServiceM α} {f : α → ServiceM β} (hx : RefusedWithin R x)
    (hf : ∀ a, Total (f a)) : RefusedWithin R (x >>= f) := by
  intro s e s' h
  obtain h | ⟨a, t, -, h⟩ := fails_bind.mp h
  · exact hx _ _ _ h
  · exact absurd h (hf _ _ _ _)

theorem RefusedWithin.ite {c : Prop} [Decidable c] {x y : ServiceM α} (hx : RefusedWithin R x)
    (hy : RefusedWithin R y) : RefusedWithin R (if c then x else y) := by
  split
  · exact hx
  · exact hy

theorem Within.ite {c : Prop} [Decidable c] {x y : ServiceM α} (hx : Within R x)
    (hy : Within R y) : Within R (if c then x else y) := by
  split
  · exact hx
  · exact hy

section Trans

variable [IsTrans Service R]

theorem Within.bind_refused {x : ServiceM α} {f : α → ServiceM β} (hx : Within R x)
    (hf : ∀ a, RefusedWithin R (f a)) : RefusedWithin R (x >>= f) := by
  intro s e s' h
  obtain h | ⟨a, t, hsucceeds, h⟩ := fails_bind.mp h
  · exact hx.refused _ _ _ h
  · exact trans_of R (hx.done _ _ _ hsucceeds) (hf _ _ _ _ h)

theorem Within.bind {x : ServiceM α} {f : α → ServiceM β} (hx : Within R x)
    (hf : ∀ a, Within R (f a)) : Within R (x >>= f) := by
  refine ⟨hx.bind_refused fun a => (hf a).refused, ?_⟩
  intro s b s' h
  obtain ⟨a, t, hx', hf'⟩ := succeeds_bind.mp h
  exact trans_of R (hx.done _ _ _ hx') ((hf a).done _ _ _ hf')

end Trans

section Refl

variable [Std.Refl R]

theorem within_pure : Within R (pure a : ServiceM α) := by
  refine ⟨total_pure.refusedWithin, ?_⟩
  intro s b s' h
  obtain ⟨-, rfl⟩ := succeeds_pure.mp h
  exact refl_of R _

theorem within_throw : Within R (throw e : ServiceM α) := by
  refine ⟨?_, fun s a s' h => absurd h succeeds_throw⟩
  intro s e' s' h
  obtain ⟨-, rfl⟩ := fails_throw.mp h
  exact refl_of R _

theorem RefusedWithin.guard {c : Prop} [Decidable c] {f : β → ServiceM α} {x : ServiceM α}
    (hx : RefusedWithin R x) : RefusedWithin R (if c then throw e >>= f else x) :=
  RefusedWithin.ite within_throw.refused hx

theorem Within.guard {c : Prop} [Decidable c] {f : β → ServiceM α} {x : ServiceM α}
    (hx : Within R x) : Within R (if c then throw e >>= f else x) :=
  Within.ite within_throw hx

theorem within_requireNotPastEnd {ctx : CallContext} {id : DataSetId} {d : DataSet} :
    Within R (requireNotPastEnd ctx id d) :=
  within_throw.ite within_pure

theorem within_get : Within R (get : ServiceM Service) := by
  constructor
  · intro s e s' h
    contradiction
  intro s t s' h
  obtain ⟨-, rfl⟩ := succeeds_get.mp h
  exact refl_of R _

theorem within_ofExcept {ε : Type} {wrap : ε → ServiceError} {x : Except ε α} :
    Within R (ofExcept wrap x) := by
  cases x with
  | ok a => exact within_pure
  | error e => exact within_throw

end Refl

section Preorder

variable [Std.Refl R] [IsTrans Service R] {ctx : CallContext} {id : DataSetId}

theorem within_state : Within R state :=
  within_get.bind fun _ => within_pure

theorem within_config : Within R config :=
  within_state.bind fun _ => within_pure

theorem within_requireVerifier : Within R (requireVerifier ctx) :=
  within_config.bind fun _ => within_throw.ite within_pure

theorem within_requirePayments : Within R (requirePayments ctx) :=
  within_config.bind fun _ => within_throw.ite within_pure

theorem within_requireOwner : Within R (requireOwner ctx) :=
  within_config.bind fun _ => within_throw.ite within_pure

theorem within_dataSet : Within R (dataSet id) := by
  refine within_state.bind fun t => ?_
  cases t.dataSet? id with
  | none => exact within_throw
  | some d => exact within_pure

theorem within_proving : Within R (proving id) := by
  refine within_state.bind fun t => ?_
  cases t.proving? id with
  | none => exact within_throw
  | some p => exact within_pure

theorem within_requireSigned {m : Message} {signature : List UInt8} {payer : Address} :
    Within R (requireSigned ctx m signature payer) :=
  within_get.bind fun _ => within_ofExcept.bind fun _ => within_pure

theorem within_approvedProvider {serviceProvider : Address} :
    Within R (approvedProvider serviceProvider) := by
  refine within_get.bind fun t => ?_
  cases t.providers.id? serviceProvider with
  | none => exact within_throw
  | some provider =>
    apply Within.guard
    apply Within.guard
    exact within_pure

theorem refusedWithin_ledgerCall {f : Ledger → Except LedgerError (α × Ledger)} :
    RefusedWithin R (ledgerCall f) :=
  within_get.bind_refused fun _ => within_ofExcept.refused.bind_total fun _ =>
    total_modify.bind fun _ => total_pure

theorem refusedWithin_ledgerChange {f : Ledger → Except LedgerError Ledger} :
    RefusedWithin R (ledgerChange f) :=
  within_get.bind_refused fun _ => within_ofExcept.refused.bind_total fun _ => total_modify

end Preorder

structure SameButLedger (s s' : Service) : Prop where
  state : s'.state = s.state
  providers : s'.providers = s.providers
  sessionKeys : s'.sessionKeys = s.sessionKeys
  events : s'.events = s.events
  ledger : s.ledger.Reaches s'.ledger

instance : Std.Refl SameButLedger where
  refl _ := ⟨rfl, rfl, rfl, rfl, .refl⟩

instance : IsTrans Service SameButLedger where
  trans _ _ _ h h' := ⟨h'.state.trans h.state, h'.providers.trans h.providers,
    h'.sessionKeys.trans h.sessionKeys, h'.events.trans h.events, h.ledger.trans h'.ledger⟩

theorem within_ledgerCall {f : Ledger → Except LedgerError (α × Ledger)}
    (hf : ∀ l a l', f l = .ok (a, l') → l.Reaches l') : Within SameButLedger (ledgerCall f) := by
  refine ⟨refusedWithin_ledgerCall, ?_⟩
  intro s a s' h
  obtain ⟨l, hl, rfl⟩ := succeeds_ledgerCall.mp h
  exact ⟨rfl, rfl, rfl, rfl, hf _ _ _ hl⟩

theorem within_ledgerChange {f : Ledger → Except LedgerError Ledger}
    (hf : ∀ l l', f l = .ok l' → l.Reaches l') : Within SameButLedger (ledgerChange f) := by
  refine ⟨refusedWithin_ledgerChange, ?_⟩
  intro s a s' h
  obtain ⟨l, hl, rfl⟩ := succeeds_ledgerChange.mp h
  exact ⟨rfl, rfl, rfl, rfl, hf _ _ hl⟩

theorem fails_done {call : ServiceM Unit} : Fails (done call) s e s' ↔ Fails call s e s' :=
  fails_bind_total fun _ => total_pure

theorem RefusedWithin.done {call : ServiceM Unit} (h : RefusedWithin R call) :
    RefusedWithin R (done call) :=
  h.bind_total fun _ => total_pure

def RefusedTo (P : Service → Prop) (call : ServiceM α) (s : Service) : Prop :=
  ∀ e s', Fails call s e s' → P s'

variable {P : Service → Prop}

theorem Within.bind_refusedTo {x : ServiceM α} {f : α → ServiceM β} (hx : Within Eq x) (hs : P s)
    (hf : ∀ a, Succeeds x s a s → RefusedTo P (f a) s) : RefusedTo P (x >>= f) s := by
  intro e s' h
  obtain h | ⟨a, t, hsucceeds, h⟩ := fails_bind.mp h
  · rw [← hx.refused s e s' h]
    exact hs
  · have heq := hx.done s a t hsucceeds
    subst heq
    exact hf a hsucceeds e s' h

theorem refusedTo_throw (hs : P s) : RefusedTo P (throw e : ServiceM α) s := by
  intro e' s' h
  rw [(fails_throw.mp h).2]
  exact hs

theorem RefusedTo.guard {c : Prop} [Decidable c] {f : β → ServiceM α} {x : ServiceM α} (hs : P s)
    (hx : ¬ c → RefusedTo P x s) : RefusedTo P (if c then throw e >>= f else x) s := by
  split
  · exact refusedTo_throw hs
  · rename_i hc
    exact hx hc

def Spares (e : ServiceError) (call : ServiceM α) : Prop :=
  ∀ s s', ¬ Fails call s e s'

variable {e' : ServiceError} {ctx : CallContext}

theorem Total.spares {x : ServiceM α} (h : Total x) : Spares e x :=
  fun s s' => h s e s'

theorem Spares.bind {x : ServiceM α} {f : α → ServiceM β} (hx : Spares e x)
    (hf : ∀ a, Spares e (f a)) : Spares e (x >>= f) := by
  intro s s' h
  obtain h | ⟨a, t, -, h⟩ := fails_bind.mp h
  · exact hx s s' h
  · exact hf a t s' h

theorem Spares.ite {c : Prop} [Decidable c] {x y : ServiceM α} (hx : Spares e x)
    (hy : Spares e y) : Spares e (if c then x else y) := by
  split
  · exact hx
  · exact hy

theorem spares_throw (h : e ≠ e') : Spares e (throw e' : ServiceM α) :=
  fun _ _ hfails => h (fails_throw.mp hfails).1

theorem spares_ofExcept {ε : Type} {wrap : ε → ServiceError} {x : Except ε α}
    (h : ∀ e', x = .error e' → e ≠ wrap e') : Spares e (ofExcept wrap x) := by
  cases x with
  | ok a => exact total_pure.spares
  | error e' => exact spares_throw (h e' rfl)

theorem spares_get : Spares e (get : ServiceM Service) := by
  intro s s' h
  contradiction

theorem spares_state : Spares e state :=
  spares_get.bind fun _ => total_pure.spares

theorem spares_config : Spares e config :=
  spares_state.bind fun _ => total_pure.spares

theorem spares_requireVerifier (h : e ≠ .notVerifier ctx.caller) :
    Spares e (requireVerifier ctx) :=
  spares_config.bind fun _ => (spares_throw h).ite total_pure.spares

theorem spares_approvedProvider {serviceProvider : Address}
    (hunknown : e ≠ .unknownProvider serviceProvider) (hinactive : ∀ p, e ≠ .inactiveProvider p)
    (hunapproved : ∀ p, e ≠ .providerNotApproved p) :
    Spares e (approvedProvider serviceProvider) := by
  refine spares_get.bind fun t => ?_
  cases t.providers.id? serviceProvider with
  | none => exact spares_throw hunknown
  | some p =>
    exact (spares_throw (hinactive p)).ite ((spares_throw (hunapproved p)).ite total_pure.spares)

theorem spares_requireSigned {m : Message} {signature : List UInt8} {payer : Address}
    (h : ∀ e', e ≠ .auth e') : Spares e (requireSigned ctx m signature payer) :=
  spares_get.bind fun _ => (spares_ofExcept fun e' _ => h e').bind fun _ => total_pure.spares

theorem spares_ledgerCall {f : Ledger → Except LedgerError (α × Ledger)}
    (h : ∀ e', e ≠ .ledger e') : Spares e (ledgerCall f) :=
  spares_get.bind fun _ => (spares_ofExcept fun e' _ => h e').bind fun _ =>
    (total_modify.bind fun _ => total_pure).spares

theorem spares_ledgerChange {f : Ledger → Except LedgerError Ledger}
    (h : ∀ e', e ≠ .ledger e') : Spares e (ledgerChange f) :=
  spares_get.bind fun _ => (spares_ofExcept fun e' _ => h e').bind fun _ => total_modify.spares

def RefusedOnlyIf (P : Prop) (e : ServiceError) (call : ServiceM α) (s : Service) : Prop :=
  ∀ s', Fails call s e s' → P

section

variable {P : Prop}

theorem Spares.refusedOnlyIf {x : ServiceM α} (h : Spares e x) : RefusedOnlyIf P e x s :=
  fun s' hfails => absurd hfails (h s s')

theorem Spares.bind_refusedOnlyIf {x : ServiceM α} {f : α → ServiceM β} (hx : Spares e x)
    (same : Within Eq x) (hf : ∀ a, Succeeds x s a s → RefusedOnlyIf P e (f a) s) :
    RefusedOnlyIf P e (x >>= f) s := by
  intro s' h
  obtain h | ⟨a, t, hsucceeds, h⟩ := fails_bind.mp h
  · exact absurd h (hx s s')
  · have heq := same.done s a t hsucceeds
    subst heq
    exact hf a hsucceeds s' h

theorem RefusedOnlyIf.bind_spares {x : ServiceM α} {f : α → ServiceM β}
    (hx : RefusedOnlyIf P e x s) (hf : ∀ a, Spares e (f a)) : RefusedOnlyIf P e (x >>= f) s := by
  intro s' h
  obtain h | ⟨a, t, -, h⟩ := fails_bind.mp h
  · exact hx s' h
  · exact absurd h (hf a t s')

theorem RefusedOnlyIf.guard {c : Prop} [Decidable c] {f : β → ServiceM α} {x : ServiceM α}
    (h : e ≠ e') (hx : RefusedOnlyIf P e x s) :
    RefusedOnlyIf P e (if c then throw e' >>= f else x) s := by
  split
  · exact (spares_throw h).refusedOnlyIf
  · exact hx

end

end WarmStorage.ServiceM
