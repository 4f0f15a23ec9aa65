import WarmStorage.Codec.Config
import WarmStorage.State

/-!
The state of the service as JSON trees. Nothing has a default here, but an object may leave out
what is optional.
-/

namespace WarmStorage.Codec

open Record (fields? ofFields)

instance : Codec MetadataEntry :=
  let names := ["key", "value"]
  { encode := fun e => ofFields names [encode e.key, encode e.value]
    decode? := fun src v => do
      let [key, value] ← fields? src names v | none
      return ⟨← key.required? src, ← value.required? src⟩ }

instance : Codec NonceUse :=
  let names := ["data_set_id", "piece_count"]
  { encode := fun u => ofFields names [encode u.dataSet, encode u.pieceCount]
    decode? := fun src v => do
      let [dataSet, pieceCount] ← fields? src names v | none
      return ⟨← dataSet.required? src, ← pieceCount.required? src⟩ }

instance : Codec ReplayRegistry :=
  let names := ["client_data_set_ids", "add_piece_nonces"]
  { encode := fun r => ofFields names [encode r.dataSets, encode r.nonces]
    decode? := fun src v => do
      let [dataSets, nonces] ← fields? src names v | none
      return ⟨← dataSets.required? src, ← nonces.required? src⟩ }

instance : Codec ProvenPeriods where
  encode s := encode s.words
  decode? src v := (decode? src v).map ProvenPeriods.mk

instance : Codec ProvingState :=
  let names := ["params", "activation_epoch", "proving_deadline", "proven_this_period",
    "proven_periods"]
  { encode := fun s => ofFields names
      [encode s.params, encode s.activation, encode s.deadline, encode s.provenThisPeriod,
        encode s.proven]
    decode? := fun src v => do
      let [params, activation, deadline, provenThisPeriod, proven] ← fields? src names v | none
      return {
        params := ← params.required? src
        activation := ← activation.required? src
        deadline := ← deadline.required? src
        provenThisPeriod := ← provenThisPeriod.required? src
        proven := ← proven.required? src } }

instance : Codec Deal :=
  let names := ["id", "payer", "service_provider", "payee", "client_data_set_id", "pdp_rail_id",
    "cache_miss_rail_id", "cdn_rail_id", "commission_bps", "pdp_end_epoch", "with_cdn",
    "metadata", "piece_metadata", "pieces_added"]
  { encode := fun d => ofFields names
      [encode d.id, encode d.payer, encode d.serviceProvider, encode d.payee,
        encode d.clientDataSetId, encode d.storageRail, encode d.cacheMissRail, encode d.cdnRail,
        encode d.commissionBps, encode d.endEpoch, encode d.withCdn, encode d.metadata,
        encode d.pieceMetadata, encode d.piecesAdded]
    decode? := fun src v => do
      let [id, payer, serviceProvider, payee, clientDataSetId, storageRail, cacheMissRail,
        cdnRail, commissionBps, endEpoch, withCdn, metadata, pieceMetadata,
        piecesAdded] ← fields? src names v | none
      return {
        id := ← id.required? src
        payer := ← payer.required? src
        serviceProvider := ← serviceProvider.required? src
        payee := ← payee.required? src
        clientDataSetId := ← clientDataSetId.required? src
        storageRail := ← storageRail.required? src
        cacheMissRail := ← cacheMissRail.optional? src
        cdnRail := ← cdnRail.optional? src
        commissionBps := ← commissionBps.required? src
        endEpoch := ← endEpoch.required? src
        withCdn := ← withCdn.required? src
        metadata := ← metadata.required? src
        pieceMetadata := ← pieceMetadata.required? src
        piecesAdded := ← piecesAdded.required? src } }

instance : Codec DataSet :=
  let names := ["id", "payer", "service_provider", "payee", "provider_id", "client_data_set_id",
    "pdp_rail_id", "cache_miss_rail_id", "cdn_rail_id", "commission_bps", "pdp_end_epoch",
    "with_cdn", "metadata", "piece_metadata", "pieces_added"]
  { encode := fun d => ofFields names
      [encode d.id, encode d.payer, encode d.serviceProvider, encode d.payee,
        encode d.providerId, encode d.clientDataSetId, encode d.storageRail,
        encode d.cacheMissRail, encode d.cdnRail, encode d.commissionBps, encode d.endEpoch,
        encode d.withCdn, encode d.metadata, encode d.pieceMetadata, encode d.piecesAdded]
    decode? := fun src v => do
      let [id, payer, serviceProvider, payee, providerId, clientDataSetId, storageRail,
        cacheMissRail, cdnRail, commissionBps, endEpoch, withCdn, metadata, pieceMetadata,
        piecesAdded] ← fields? src names v | none
      return {
        id := ← id.required? src
        payer := ← payer.required? src
        serviceProvider := ← serviceProvider.required? src
        payee := ← payee.required? src
        providerId := ← providerId.required? src
        clientDataSetId := ← clientDataSetId.required? src
        storageRail := ← storageRail.required? src
        cacheMissRail := ← cacheMissRail.optional? src
        cdnRail := ← cdnRail.optional? src
        commissionBps := ← commissionBps.required? src
        endEpoch := ← endEpoch.required? src
        withCdn := ← withCdn.required? src
        metadata := ← metadata.required? src
        pieceMetadata := ← pieceMetadata.required? src
        piecesAdded := ← piecesAdded.required? src } }

def stateNames : List String :=
  ["config", "data_sets", "proving", "nonces", "payer_data_sets", "rail_to_data_set",
    "approved_providers", "payer_counters"]

def encodeState (r : Records) (dataSets approvedProviders : Json) : Json :=
  ofFields stateNames
    [encode r.config, dataSets, encode r.proving, encode r.replay, encode r.payerDataSets,
      encode r.railOwners, approvedProviders, encode r.payerCounters]

def decodeState? (src : Source) (v : Json) : Option (Records × Field × Field) := do
  let [config, dataSets, proving, replay, payerDataSets, railOwners, approvedProviders,
    payerCounters] ← fields? src stateNames v | none
  return ({
    config := ← config.required? src
    proving := ← proving.required? src
    replay := ← replay.required? src
    payerDataSets := ← payerDataSets.required? src
    railOwners := ← railOwners.required? src
    payerCounters := ← payerCounters.required? src }, dataSets, approvedProviders)

instance : Codec ServiceState where
  encode s := encodeState s.toRecords (encode s.dataSets) (encode s.approvedProviders)
  decode? src v := do
    let (records, dataSets, approvedProviders) ← decodeState? src v
    return {
      toRecords := records
      dataSets := ← dataSets.required? src
      approvedProviders := ← approvedProviders.required? src }

end WarmStorage.Codec
