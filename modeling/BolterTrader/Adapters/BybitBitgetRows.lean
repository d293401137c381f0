import BolterTrader.Adapters.BybitBitget
import BolterTrader.Foundations.DecimalText
import BolterTrader.Foundations.Fallible

/-! How the Bybit and Bitget clients check an instrument and read the fields of a row
(`bybit_bitget.go`). -/
namespace BolterTrader.Adapters.BybitBitget
open Foundations Foundations.Fallible Exchange

section
variable (client : ClientMeta) (operation : String)

def invalidRequest (message : String) : NativeError :=
  newError .invalidRequest {venue := client.venue, product := client.product, operation, safeMessage := message}

def validateBybitBitgetInstrument (instrument : Instrument) : Except NativeError Unit := do
  let identity := instrument.identity
  check (instrument.validate.map fun err => withExchangeOperation (.leaf (.exchange err)) operation)
  refuse (identity.venue ≠ client.venue) (invalidRequest client operation "instrument venue does not match client venue")
  refuse (identity.product ≠ client.product)
    (invalidRequest client operation "instrument product does not match client product")
  refuse (identity.nativeSymbol = "") (invalidRequest client operation "instrument native symbol is required")
  refuse (identity.nativeSymbol ≠ GoText.trimSpace identity.nativeSymbol)
    (invalidRequest client operation "instrument native symbol must be trimmed")

def symbols (coin : String) (instrument : Instrument) : Except NativeError String := do
  validateBybitBitgetInstrument client operation instrument
  refuse (client.product = .perp ∧ instrument.identity.settleAsset ≠ coin)
    (invalidRequest client operation ("instrument quote must match " ++ coin ++ " settlement"))
  return instrument.identity.nativeSymbol

def resolveEmittedNativeId (catalog : Option (String → Except NativeError Instrument)) (nativeSymbol : String) :
    Except NativeError String := do
  let resolve ← required (client.catalogMetadataResolution operation "instrument catalog is not configured") catalog
  let instrument ← (resolve nativeSymbol).mapError (withExchangeOperation · operation)
  return instrument.identity.nativeId

def sideOf (word : String) : Option Side :=
  if lowerWord word ∈ ["buy", "bid", "long"] then some .buy
  else if lowerWord word ∈ ["sell", "ask", "short"] then some .sell
  else none

def parseSide (word : String) : Except NativeError Side :=
  required (malformed client operation "unknown side") (sideOf word)

def parseOptionalDecimal (text : String) : Except NativeError Decimal :=
  if GoText.trimSpace text = "" then .ok .zero
  else required (malformed client operation "invalid decimal value") (Decimal.ofString? text)

def parseRequiredDecimal (field text : String) : Except NativeError Decimal := do
  refuse (GoText.trimSpace text = "") (malformed client operation (field ++ " is required"))
  parseOptionalDecimal client operation text

def firstPositiveDecimalStrict : List String → Except NativeError Decimal
  | [] => .ok .zero
  | text :: rest => do
    let parsed ← parseOptionalDecimal client operation text
    if parsed.isPositive then return parsed else firstPositiveDecimalStrict rest

def optStrict (text : String) : Except NativeError OptionalDecimal :=
  if GoText.trimSpace text = "" then .ok none else (parseOptionalDecimal client operation text).map some

/-- A time in milliseconds, in nanoseconds. -/
def parseRequiredMilli (field text : String) : Except NativeError Int := do
  refuse (GoText.trimSpace text = "") (malformed client operation (field ++ " is required"))
  let parsed ← required (malformed client operation ("invalid " ++ field))
    ((Decimal.parseInt64? text).filter fun n => decide (0 < n))
  return parsed * 1000000

end

theorem parseRequiredMilli_toString {client : ClientMeta} {operation field : String} {time : ℕ} (hpos : 0 < time)
    (hfits : Decimal.fitsInt64 time = true) :
    parseRequiredMilli client operation field (toString (time : Int)) = .ok (time * 1000000) := by
  have hparsed : (Decimal.parseInt64? (toString (time : Int))).filter (fun n => decide (0 < n)) = some (time : Int) := by
    rw [Decimal.parseInt64?_toString hfits, Option.filter_some, if_pos (decide_eq_true (by omega))]
  rw [parseRequiredMilli, refuse_bind (Decimal.trimSpace_toString_ne_empty time), hparsed]
  rfl

end BolterTrader.Adapters.BybitBitget
