import BolterTrader.Adapters.AccountEvents
import BolterTrader.Adapters.Aster

/-! Positions of Aster's account stream (`aster.go`). -/
namespace BolterTrader.Adapters.Aster
open Foundations Foundations.Fallible Exchange

structure PositionRow where
 symbol:String
 positionAmount:String
 entryPrice:String:=""
 unrealizedPnl:String:=""
 positionSide:String:=""

section
-- the text of the decimal package's error for a text that does not parse
variable (conversionError:String→String)

def parseAmount (text:String):Except NativeError Decimal:=
 required (asterMalformed .perp "WatchAccountEvents" (conversionError (asterDefaultZero text)))
  (Decimal.ofString? (asterDefaultZero text))

def updatedPosition (row:PositionRow):Except NativeError Position:=do
 let quantity ← parseAmount conversionError row.positionAmount
 let entryPrice ← parseAmount conversionError row.entryPrice
 let unrealizedPnl ← parseAmount conversionError row.unrealizedPnl
 return {
  nativeSymbol:=row.symbol
  side:=if quantity.isNegative∨row.positionSide="SHORT" then .sell else .buy
  quantity:=quantity.abs
  entryPrice
  unrealizedPnl}

def handleAccountUpdate (rows:List PositionRow):Except NativeError (Option PositionBackendEvent):=do
 let positions ← rows.mapM (updatedPosition conversionError)
 return if positions=[] then none else some {event:={kind:=.delta,positions}}

end

end BolterTrader.Adapters.Aster
