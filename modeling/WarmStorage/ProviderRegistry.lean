import Std.Data.ExtTreeMap
import WarmStorage.Identifier

/-!
The registry of storage providers. A provider is registered once, under the next free number, and
may be taken out of service later.
-/

namespace WarmStorage

structure Provider where
  serviceProvider : Address
  payee : Address
  isActive : Bool
deriving DecidableEq, Repr

structure ProviderRegistry where
  lastId : ProviderId := 0
  providers : Std.ExtTreeMap ProviderId Provider := ∅
  ids : Std.ExtTreeMap Address ProviderId := ∅

namespace ProviderRegistry

def empty : ProviderRegistry := {}

def provider? (r : ProviderRegistry) (id : ProviderId) : Option Provider :=
  r.providers[id]?

def id? (r : ProviderRegistry) (serviceProvider : Address) : Option ProviderId :=
  r.ids[serviceProvider]?

def payee? (r : ProviderRegistry) (id : ProviderId) : Option Address :=
  (r.provider? id).map (·.payee)

def isActive (r : ProviderRegistry) (id : ProviderId) : Bool :=
  (r.provider? id).any (·.isActive)

def register (r : ProviderRegistry) (serviceProvider payee : Address) :
    ProviderId × ProviderRegistry :=
  match r.id? serviceProvider with
  | some id => (id, r)
  | none =>
    let id := r.lastId + 1
    (id, ⟨id, r.providers.insert id ⟨serviceProvider, payee, true⟩,
      r.ids.insert serviceProvider id⟩)

def deactivate (r : ProviderRegistry) (id : ProviderId) : ProviderRegistry :=
  { r with providers := r.providers.modify id fun p => { p with isActive := false } }

end ProviderRegistry

end WarmStorage
