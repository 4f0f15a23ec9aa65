import Std.Data.ExtTreeSet
import WarmStorage.DataSet
import WarmStorage.Proving.State
import WarmStorage.Replay

/-!
What the service knows. The ledger, the provider registry and the session keys are kept elsewhere.
-/

namespace WarmStorage

structure Records where
  config : Config := {}
  proving : Std.ExtTreeMap DataSetId ProvingState := ∅
  replay : ReplayRegistry := {}
  payerDataSets : Std.ExtTreeMap Address (List DataSetId) := ∅
  railOwners : Std.ExtTreeMap RailId DataSetId := ∅
  payerCounters : Std.ExtTreeMap Address UInt64 := ∅

structure ServiceState extends Records where
  dataSets : Std.ExtTreeMap DataSetId DataSet := ∅
  approvedProviders : Std.ExtTreeSet ProviderId := ∅

namespace ServiceState

def ofConfig (config : Config) : ServiceState :=
  { config := config }

def dataSet? (s : ServiceState) (id : DataSetId) : Option DataSet :=
  s.dataSets[id]?

def proving? (s : ServiceState) (id : DataSetId) : Option ProvingState :=
  s.proving[id]?

def dataSetOfRail? (s : ServiceState) (rail : RailId) : Option DataSetId :=
  s.railOwners[rail]?

def nextClientDataSetId (s : ServiceState) (payer : Address) : UInt64 :=
  s.payerCounters.getD payer 0

def isApproved (s : ServiceState) (provider : ProviderId) : Bool :=
  s.approvedProviders.contains provider

end ServiceState

end WarmStorage
