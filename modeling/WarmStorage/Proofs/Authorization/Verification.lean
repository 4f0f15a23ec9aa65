import WarmStorage.Authorization.SessionKeys
import WarmStorage.Proofs.Hash.Keccak

/-!
Who may sign for a payer: the payer, and whoever holds a session key that has not expired.
-/

namespace WarmStorage

variable {ctx : SigningContext} {m : Message} {hash : Digest} {bs : List UInt8}
  {payer signer : Address} {keys : SessionKeys} {epoch : Epoch}

theorem recoverSigner_eq_ok_iff : recoverSigner hash bs = .ok signer ↔
    ∃ sig, parseSignature bs = .ok sig ∧ Secp256k1.recover? hash sig = some signer := by
  unfold recoverSigner
  cases parseSignature bs with
  | error e => simp [bind, Except.bind]
  | ok sig =>
    cases hsigner : Secp256k1.recover? hash sig with
    | none => simp [bind, Except.bind, hsigner]
    | some other => simp [bind, Except.bind, hsigner]

theorem recoverSigner_of_key {x y : Secp256k1.Field}
    (hkey : (parseSignature bs).toOption.bind (Secp256k1.recoverKey? hash) = some (x, y))
    (haddress : Secp256k1.addressOf x y = signer) : recoverSigner hash bs = .ok signer := by
  rw [recoverSigner_eq_ok_iff]
  cases hsignature : parseSignature bs with
  | error e =>
    rw [hsignature] at hkey
    contradiction
  | ok sig =>
    rw [hsignature] at hkey
    have hkey : Secp256k1.recoverKey? hash sig = some (x, y) := hkey
    refine ⟨sig, rfl, ?_⟩
    rw [Secp256k1.recover?, hkey, Option.map_some]
    exact congrArg some haddress

theorem SigningContext.verify_eq_ok_iff : ctx.verify m bs payer keys epoch = .ok signer ↔
    recoverSigner (ctx.signingHash m) bs = .ok signer ∧ (signer = payer ∨
      keys.expiry ⟨payer, signer, m.kind.typeHash⟩ ≠ 0 ∧
        epoch ≤ keys.expiry ⟨payer, signer, m.kind.typeHash⟩) := by
  unfold verify
  cases recoverSigner (ctx.signingHash m) bs with
  | error e => simp [bind, Except.bind]
  | ok other =>
    simp only [bind, Except.bind, pure, Except.pure, throw, throwThe, MonadExceptOf.throw]
    constructor
    · intro h
      split at h
      · rename_i hpayer
        cases h
        exact ⟨rfl, .inl hpayer⟩
      split at h
      · contradiction
      rename_i hgranted
      split at h
      · contradiction
      rename_i hlive
      cases h
      exact ⟨rfl, .inr ⟨hgranted, UInt64.not_lt.mp hlive⟩⟩
    · rintro ⟨h, hsigner⟩
      cases h
      split
      · rfl
      rename_i hother
      obtain ⟨hgranted, hlive⟩ := hsigner.resolve_left hother
      rw [if_neg hgranted, if_neg (UInt64.not_lt.mpr hlive)]

/-!
A message with its signature under the key 7. Each hash is evaluated on its own and one after the
other, which keeps the terms that are evaluated at a time small, and on rows, which keeps them few.
-/

def sampleContext : SigningContext := ⟨⟨"", "", 1⟩, 1⟩

def sampleMessage : Message := .createDataSet 0 8 []

def sampleSignature : List UInt8 :=
  Bytes.ofNat 32 0xe967e9e35656368d63520baa300f1eb54b6a386674795a5a44a88f113b2e2124 ++
    Bytes.ofNat 32 0x7dd6f37004cf67f21a73d3298b967734f7dc7667c15f088f49aeef83be479c0b ++ [28]

def samplePayer : Address := 0xd41c057fd1c78805aac12b0a94a405c0461a6fbb

open Hash.Keccak (hashBytes hashBytes_eq_hashBytesByRows)

theorem hashBytes_nil : hashBytes [] =
    Bytes.ofNat 32 0xc5d2460186f7233c927e7db2dcc703c0e500b653ca82273b7bfad8045d85a470 := by
  rw [hashBytes_eq_hashBytesByRows]
  decide +kernel

theorem bytes_sampleContext : sampleContext.encoding.bytes =
    Bytes.ofNat 32 0xe1a6964cbe979037290f20b54a24d21b29ff35797c8d257635ba97290a2598ae := by
  have hstring : Bytes.ofString "" = [] := by
    decide +kernel
  have htype : hashBytes (Bytes.ofString SigningContext.type) =
      Bytes.ofNat 32 0x8b73c3c69bb8fe3d512ecc4cf759cc79239f7b179b0ffacaa9a75d522b39400f := by
    rw [hashBytes_eq_hashBytesByRows]
    decide +kernel
  simp only [sampleContext, SigningContext.encoding, Encoding.struct, Encoding.string,
    Encoding.dynamic, Encoding.bytes, Encoding.bytesOfParts, List.append_nil, hstring]
  rw [htype, hashBytes_nil, hashBytes_eq_hashBytesByRows]
  decide +kernel

theorem hashBytes_creationType : hashBytes (Bytes.ofString MessageKind.createDataSet.type) =
    Bytes.ofNat 32 0x25ebf20299107c91b4624d5bac3a16d32cabf0db23b450ee09ab7732983b1dc9 := by
  rw [hashBytes_eq_hashBytesByRows]
  decide +kernel

theorem signingHash_sampleMessage : sampleContext.signingHash sampleMessage =
    0x7a1ef317100b518a289b0993a9e3c19cf7c2efe3e7498666230fcd99f35679b1 := by
  have hmessage : sampleMessage.encoding.bytes =
      Bytes.ofNat 32 0xf388f116a0c2072cbed351467985fc91621f52e9874df3eb19c02ae130614a9f := by
    simp only [sampleMessage, Message.encoding, Message.kind, Message.fields, Encoding.metadata,
      List.map_nil, Encoding.list, Encoding.struct, Encoding.string, Encoding.dynamic,
      Encoding.bytes, Encoding.bytesOfParts, List.append_nil]
    rw [hashBytes_creationType, hashBytes_nil, hashBytes_eq_hashBytesByRows]
    decide +kernel
  simp only [SigningContext.signingHash, SigningContext.signing, Encoding.bytes,
    Encoding.bytesOfParts, List.append_nil]
  rw [bytes_sampleContext, hmessage, hashBytes_eq_hashBytesByRows]
  decide +kernel

theorem recoverSigner_sampleSignature :
    recoverSigner 0x7a1ef317100b518a289b0993a9e3c19cf7c2efe3e7498666230fcd99f35679b1
      sampleSignature = .ok samplePayer := by
  have hkey : (parseSignature sampleSignature).toOption.bind (Secp256k1.recoverKey?
      0x7a1ef317100b518a289b0993a9e3c19cf7c2efe3e7498666230fcd99f35679b1) =
      some (0x5cbdf0646e5db4eaa398f365f2ea7a0e3d419b7e0330e39ce92bddedcac4f9bc,
        0x6aebca40ba255960a3178d6d861a54dba813d0b813fde7b5a5082628087264da) := by
    decide +kernel
  have haddress :
      Secp256k1.addressOf 0x5cbdf0646e5db4eaa398f365f2ea7a0e3d419b7e0330e39ce92bddedcac4f9bc
        0x6aebca40ba255960a3178d6d861a54dba813d0b813fde7b5a5082628087264da = samplePayer := by
    rw [Secp256k1.addressOf, Hash.Keccak.hash, hashBytes_eq_hashBytesByRows]
    decide +kernel
  exact recoverSigner_of_key hkey haddress

theorem verify_sampleMessage :
    sampleContext.verify sampleMessage sampleSignature samplePayer keys epoch =
      .ok samplePayer := by
  rw [SigningContext.verify_eq_ok_iff, signingHash_sampleMessage]
  exact ⟨recoverSigner_sampleSignature, .inl rfl⟩

end WarmStorage
