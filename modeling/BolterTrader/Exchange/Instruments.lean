import BolterTrader.Exchange.Errors

/-! Instruments of the exchange layer and their validation (`exchange/model.go`). -/
namespace BolterTrader.Exchange
open Foundations

abbrev OptionalDecimal:=Option Decimal

inductive MarketFamily where
 | unset | spot | venuePerpetual | builderPerpetual | other (name:String)
 deriving DecidableEq

inductive AssetClass where
 | unset | unknown | crypto | equity | commodity | index | fx | rates | preIpo | rwaOther
 | other (name:String)
 deriving DecidableEq

structure InstrumentMetadata where
 marketFamily:MarketFamily:=.unset
 assetClass:AssetClass:=.unset
 classificationSource:String:=""
 rawAssetType:String:=""
 rawCategories:Option (List String):=some []
 deriving DecidableEq

structure InstrumentIdentity where
 venue:Venue:=.unset
 product:Product:=.unset
 symbol:String:=""
 baseAsset:String:=""
 quoteAsset:String:=""
 settleAsset:String:=""
 nativeSymbol:String:=""
 nativeId:String:=""
 deriving DecidableEq

structure InstrumentRules where
 priceIncrement:Decimal:={}
 quantityIncrement:Decimal:={}
 minQuantity:Decimal:={}
 minNotional:OptionalDecimal:=none
 deriving DecidableEq

structure InstrumentEncoding where
 contractMultiplier:OptionalDecimal:=none
 priceScale:Option Int:=none
 quantityScale:Option Int:=none
 quoteScale:Option Int:=none
 deriving DecidableEq

structure Instrument where
 identity:InstrumentIdentity:={}
 rules:InstrumentRules:={}
 encoding:InstrumentEncoding:={}
 metadata:InstrumentMetadata:={}
 revision:String:=""
 deriving DecidableEq

def invalidRequest (message:String):Error:=
 { kind:=.invalidRequest
   details:={operation:="PlaceOrderRequest.Validate",safeMessage:=message}}

def blank (s:String):Bool:=GoText.trimSpace s == ""
def trimmed (s:String):Bool:=GoText.trimSpace s == s

def validateCategories (seen:List String):List String→Option Error
 | []=>none
 | category::rest=>
  if category="" || !trimmed category then
   some (invalidRequest "instrument category must be non-empty and trimmed")
  else if seen.contains category then some (invalidRequest "instrument categories must be unique")
  else validateCategories (category::seen) rest

def InstrumentMetadata.validate (product:Product) (metadata:InstrumentMetadata):Option Error:=
 if metadata.marketFamily matches .other _ then
  some (invalidRequest "instrument market family is unknown")
 else if product=.spot∧metadata.marketFamily≠.unset∧metadata.marketFamily≠.spot then
  some (invalidRequest "spot instrument market family is inconsistent")
 else if product=.perp∧metadata.marketFamily=.spot then
  some (invalidRequest "perp instrument market family is inconsistent")
 else if metadata.assetClass matches .other _ then
  some (invalidRequest "instrument asset class is unknown")
 else if !trimmed metadata.classificationSource || !trimmed metadata.rawAssetType then
  some (invalidRequest "instrument metadata must be trimmed")
 else match metadata.rawCategories with
  | none=>some (invalidRequest "instrument categories are malformed")
  | some categories=>validateCategories [] categories

def badScale (scale:Option Int):Bool:=(scale.map fun value=>decide (value≤0)).getD false

def Instrument.validate (instrument:Instrument):Option Error:=
 let identity:=instrument.identity
 let rules:=instrument.rules
 let encoding:=instrument.encoding
 if identity.venue=.unset || identity.product=.unset || blank identity.symbol ||
   blank identity.nativeSymbol || blank identity.baseAsset || blank identity.quoteAsset then
  some (invalidRequest "instrument identity is incomplete")
 else if !(trimmed identity.symbol && trimmed identity.nativeSymbol && trimmed identity.nativeId &&
   trimmed identity.baseAsset && trimmed identity.quoteAsset && trimmed identity.settleAsset) then
  some (invalidRequest "instrument identity must be trimmed")
 else if !rules.priceIncrement.isPositive then
  some (invalidRequest "instrument price increment must be positive")
 else if !rules.quantityIncrement.isPositive then
  some (invalidRequest "instrument quantity increment must be positive")
 else if rules.minQuantity.isNegative then
  some (invalidRequest "instrument min quantity must not be negative")
 else if (rules.minNotional.map Decimal.isNegative).getD false then
  some (invalidRequest "instrument min notional must not be negative")
 else if (encoding.contractMultiplier.map fun value=>!value.isPositive).getD false then
  some (invalidRequest "instrument contract multiplier must be positive")
 else if badScale encoding.priceScale then
  some (invalidRequest "instrument price scale must be positive")
 else if badScale encoding.quantityScale then
  some (invalidRequest "instrument quantity scale must be positive")
 else if badScale encoding.quoteScale then
  some (invalidRequest "instrument quote scale must be positive")
 else instrument.metadata.validate identity.product

theorem Instrument.nativeSymbol_ne_of_validate {ins:Instrument} (h:ins.validate=none):
  ins.identity.nativeSymbol≠"" := by
 intro hnil
 have hbla:blank ins.identity.nativeSymbol=true:=by
  rw[hnil]
  decide
 simp[validate,hbla] at h

theorem Instrument.native_trimmed_of_validate {ins:Instrument} (h:ins.validate=none):
 GoText.trimSpace ins.identity.nativeSymbol=ins.identity.nativeSymbol∧
  GoText.trimSpace ins.identity.nativeId=ins.identity.nativeId:=by
 simp only[validate] at h
 split at h
 · cases h
 · split at h
   · cases h
   · next htri=>
     simp only[trimmed,Bool.not_eq_true,Bool.not_eq_false',Bool.and_eq_true,beq_iff_eq] at htri
     grind

end BolterTrader.Exchange
