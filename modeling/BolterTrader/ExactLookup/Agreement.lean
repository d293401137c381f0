import BolterTrader.ExactLookup.Binance
import BolterTrader.ExactLookup.BybitBitget
import BolterTrader.ExactLookup.Gate
import BolterTrader.ExactLookup.Hyperliquid
import BolterTrader.ExactLookup.Lighter
import BolterTrader.ExactLookup.Okx

/-! The exact lookups of all adapters keep one promise, whatever their venues
answer. -/
namespace BolterTrader.ExactLookup
open Foundations Exchange Adapters

inductive Adapter where
 | binanceSpot (sdk:String→Int→String→Except NativeError (Option Binance.OrderResponse))
 | binancePerp (endpointPrefix:String)
  (sdk:String→Int→String→Except NativeError (Option Binance.OrderResponse))
 | okxSpot (sdk:String→String→String→Except NativeError (List Okx.Row))
 | okxPerp (catalog:Except NativeError (List Instrument))
  (sdk:String→String→String→Except NativeError (List Okx.Row))
 | bybit (client:BybitBitget.BybitClient)
 | bitget (client:BybitBitget.BitgetClient)
 | gateSpot (sdk:String→String→Except NativeError (Option Adapters.Gate.SpotOrder))
 | gatePerp (sdk:String→Except NativeError (Option Adapters.Gate.FuturesOrder))
 | hyperliquid (client:Hyperliquid.Client)
 | lighter (client:Lighter.Client)

namespace Adapter

def lookup (lib:Library) (ctx:Context) (request:ExactOrderLookupRequest):Adapter→Answer
 | binanceSpot sdk=>Binance.lookupExactSpotOrder lib sdk ctx request
 | binancePerp endpoint sdk=>Binance.lookupExactPerpOrder lib endpoint sdk ctx request
 | okxSpot sdk=>Okx.lookupExactSpotOrder lib sdk ctx request
 | okxPerp catalog sdk=>Okx.lookupExactPerpOrder lib catalog sdk ctx request
 | bybit client=>BybitBitget.lookupExactBybitOrder client ctx request
 | bitget client=>BybitBitget.lookupExactBitgetOrder client ctx request
 | gateSpot sdk=>Gate.lookupExactSpotOrder sdk ctx request
 | gatePerp sdk=>Gate.lookupExactPerpOrder sdk ctx request
 | hyperliquid client=>Hyperliquid.lookupExactOrder lib client ctx request
 | lighter client=>Lighter.lighterLookupExactOrder lib client ctx request

def SaidNotFound (request:ExactOrderLookupRequest) (instrument:Instrument):Adapter→Prop
 | binanceSpot sdk=>∃ err,Binance.Answered .spot sdk request instrument (.error err)∧
  Binance.SaidNotFound .spot err
 | binancePerp _ sdk=>∃ err,Binance.Answered .perp sdk request instrument (.error err)∧
  Binance.SaidNotFound .perp err
 | okxSpot sdk | okxPerp _ sdk=>
  Okx.SaidNotFound (sdk instrument.identity.nativeSymbol request.venueOrderId request.clientOrderId)
 | bybit _ | bitget _ | lighter _=>False
 | gateSpot sdk=>
  Gate.SaidNotFound (sdk (Gate.gateExactLookupOrderId request) instrument.identity.nativeSymbol)
 | gatePerp sdk=>Gate.SaidNotFound (sdk (Gate.gateExactLookupOrderId request))
 | hyperliquid client=>Hyperliquid.SaidNotFound client request

def Converted (lib:Library) (ctx:Context) (request:ExactOrderLookupRequest) (instrument:Instrument)
  (order:Order):Adapter→Prop
 | binanceSpot sdk=>Binance.ConvertedSpot lib sdk request instrument order
 | binancePerp _ sdk=>Binance.ConvertedPerp lib sdk request instrument order
 | okxSpot sdk | okxPerp _ sdk=>Okx.Converted lib sdk request instrument order
 | bybit client=>BybitBitget.ConvertedBybit client request instrument order
 | bitget client=>BybitBitget.ConvertedBitget client request instrument order
 | gateSpot sdk=>Gate.ConvertedSpot sdk request instrument order
 | gatePerp sdk=>Gate.ConvertedPerp sdk request instrument order
 | hyperliquid client=>Hyperliquid.Converted lib client request instrument order
 | lighter client=>Lighter.Converted lib client ctx instrument order

theorem lookup_kept {lib:Library} {ctx:Context} {req:ExactOrderLookupRequest} {adp:Adapter}
 {result:ExactOrderLookupResult} (h:adp.lookup lib ctx req=.ok result):
 Kept req (adp.SaidNotFound req ·) (adp.Converted lib ctx req · ·) result:=by
 cases adp with
 | binanceSpot=>exact Binance.lookupExactSpotOrder_kept h
 | binancePerp=>exact Binance.lookupExactPerpOrder_kept h
 | okxSpot=>exact Okx.lookupExactSpotOrder_kept h
 | okxPerp=>exact Okx.lookupExactPerpOrder_kept h
 | bybit=>exact BybitBitget.lookupExactBybitOrder_kept h
 | bitget=>exact BybitBitget.lookupExactBitgetOrder_kept h
 | gateSpot=>exact Gate.lookupExactSpotOrder_kept h
 | gatePerp=>exact Gate.lookupExactPerpOrder_kept h
 | hyperliquid=>exact Hyperliquid.lookupExactOrder_kept h
 | lighter=>exact Lighter.lighterLookupExactOrder_kept h

end Adapter

/-- An order that is found is the one that was asked for, at every venue. -/
theorem exactLookup_kept (lib:Library) (ctx:Context) (request:ExactOrderLookupRequest) (adapter:Adapter)
  (result:ExactOrderLookupResult) (h:adapter.lookup lib ctx request=.ok result):
  Kept request (adapter.SaidNotFound request ·) (adapter.Converted lib ctx request · ·) result∧
   ((∀ instrument,request.instrument=some instrument → ¬ adapter.SaidNotFound request instrument∧
     ∀ order,¬ adapter.Converted lib ctx request instrument order) →
    result.status=.unconfirmed):=by
 have hkept:=Adapter.lookup_kept h
 refine ⟨hkept,?_⟩
 intro habs
 cases hst : result.status with
 | unset=>exact absurd hst hkept.decided
 | found=>
  obtain ⟨instrument,hins,-,-,hrow⟩:=hkept.instrument hst
  grind
 | notFound=>
  obtain ⟨instrument,hins,hsaid⟩:=hkept.notFound hst
  grind
 | unconfirmed=>rfl

theorem exactLookup_kept_gate :
 (Adapter.gateSpot fun _ _=>.ok (some Adapters.Gate.cancelledIoc)).lookup asciiLibrary .active
   Gate.byClientId=.ok Gate.partialIocAnswer∧
  Gate.partialIocAnswer.order.clientOrderId=Gate.byClientId.clientOrderId:=
 ⟨by rfl,(exactLookup_kept asciiLibrary .active Gate.byClientId
  (.gateSpot fun _ _=>.ok (some Adapters.Gate.cancelledIoc)) Gate.partialIocAnswer (by rfl)).1.clientId
   (by decide) (by decide)⟩

end BolterTrader.ExactLookup
