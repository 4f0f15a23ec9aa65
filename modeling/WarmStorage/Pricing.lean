import WarmStorage.Identifier
import WarmStorage.Schedule

/-!
Storage prices. Stored bytes cost a price per tebibyte and month, charged per epoch and never
below a floor; a product that does not fit in 256 bits is refused.
-/

namespace WarmStorage

def bytesPerTib : UInt64 := 1099511627776

def tokenUnit : TokenAmount := 1000000000000000000

def tokenAmount (whole cents : UInt64) : TokenAmount :=
  .ofWord whole * tokenUnit + .ofWord cents * tokenUnit / 100

structure Pricing where
  storagePrice : TokenAmount := tokenAmount 2 50
  cdnEgressPrice : TokenAmount := tokenAmount 0 50
  cacheMissEgressPrice : TokenAmount := tokenAmount 0 50
  minimumPrice : TokenAmount := tokenAmount 0 6
  cdnLockup : TokenAmount := tokenAmount 0 70
  cacheMissLockup : TokenAmount := tokenAmount 0 30
deriving DecidableEq, Repr

inductive PricingError where
  | storageRateOverflow
  | minimumLockupOverflow
deriving DecidableEq, Repr

def PricingError.message : PricingError → String
  | storageRateOverflow => "Arithmetic overflow computing storage rate"
  | minimumLockupOverflow => "Arithmetic overflow computing minimum lockup"

namespace Pricing

def minimumRate (p : Pricing) : TokenAmount :=
  p.minimumPrice / .ofWord epochsPerMonth

def storageRate (p : Pricing) (bytes : UInt64) : Except PricingError TokenAmount :=
  match UInt256.exactMul? (.ofWord bytes) p.storagePrice with
  | none => .error .storageRateOverflow
  | some product =>
    let natural := product / (.ofWord bytesPerTib * .ofWord epochsPerMonth)
    .ok (if natural < p.minimumRate then p.minimumRate else natural)

def minimumLockup (p : Pricing) (lockupPeriod : UInt64) : Except PricingError TokenAmount := do
  let rate ← p.storageRate 0
  match UInt256.exactMul? rate (.ofWord lockupPeriod) with
  | none => .error .minimumLockupOverflow
  | some lockup => .ok lockup

end Pricing

structure PriceSheet where
  storagePrice : TokenAmount
  cdnEgressPrice : TokenAmount
  cacheMissEgressPrice : TokenAmount
  minimumPrice : TokenAmount
  token : Address
  epochsPerMonth : UInt64
deriving DecidableEq, Repr

def Pricing.sheet (p : Pricing) (token : Address) : PriceSheet where
  storagePrice := p.storagePrice
  cdnEgressPrice := p.cdnEgressPrice
  cacheMissEgressPrice := p.cacheMissEgressPrice
  minimumPrice := p.minimumPrice
  token := token
  epochsPerMonth := WarmStorage.epochsPerMonth

end WarmStorage
