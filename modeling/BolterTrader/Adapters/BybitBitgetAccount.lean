import BolterTrader.Adapters.AccountEvents
import BolterTrader.ExactLookup.BybitBitget
import Mathlib.Data.List.ReduceOption

/-! Positions of the private streams of Bybit and Bitget (`bybit_bitget.go`). -/
namespace BolterTrader.Adapters.BybitBitget
open Foundations Foundations.Fallible Exchange ExactLookup.BybitBitget Option

/-! ## Slots -/

def slotOfIndex (index:Int):Option PositionSlot:=
 if index=0 then some .net else if index=1 then some .long else if index=2 then some .short else none

def bybitPositionSlot (index:Int):Except NativeError PositionSlot:=
 required (.leaf (.message "unknown Bybit position index")) (slotOfIndex index)

def isHedged (mode nativeSide:String):Bool:=
 GoText.contains (lowerWord mode) "double" || GoText.contains (lowerWord mode) "hedge" ||
  lowerWord nativeSide == "long" || lowerWord nativeSide == "short"

def bitgetPositionSlot (mode nativeSide:String) (side:Side):PositionSlot:=
 if isHedged mode nativeSide then if side=.sell then .short else .long else .net

/-! ## Rows -/

structure BybitPositionRow where
 symbol:String
 positionIdx:Int:=0
 side:String:=""
 size:String
 avgPrice:String:=""
 leverage:String:=""
 unrealisedPnl:String:=""
 liqPrice:String:=""

structure BitgetPositionRow where
 symbol:String
 posSide:String:=""
 holdSide:String:=""
 holdMode:String:=""
 qty:String:=""
 total:String:=""
 size:String:=""
 averageOpenPrice:String:=""
 openPriceAvg:String:=""
 avgPrice:String:=""
 markPrice:String:=""
 liquidationPrice:String:=""
 liqPrice:String:=""
 leverage:String:=""
 unrealisedPnl:String:=""
 unrealizedPl:String:=""

def BitgetPositionRow.nativeSide (row:BitgetPositionRow):String:=firstNonEmpty [row.posSide,row.holdSide]

section
variable (client:ClientMeta) (operation:String) (catalog:Option (String→Except NativeError Instrument))

def bybitPosition (row:BybitPositionRow):Except NativeError (Option Position):=do
 let quantity ← parseOptionalDecimal client operation row.size
 if !quantity.isPositive then return none
 let nativeId ← resolveEmittedNativeId client operation catalog row.symbol
 let side ← parseSide client operation row.side
 let entryPrice ← parseOptionalDecimal client operation row.avgPrice
 let unrealizedPnl ← parseOptionalDecimal client operation row.unrealisedPnl
 let liquidationPrice ← optStrict client operation row.liqPrice
 let leverage ← optStrict client operation row.leverage
 let positionSlot ← bybitPositionSlot row.positionIdx
 return some {
  nativeSymbol:=row.symbol,nativeId,positionSlot,side,quantity,entryPrice,unrealizedPnl,
  liquidationPrice,leverage}

def bitgetPosition (row:BitgetPositionRow):Except NativeError (Option Position):=do
 let quantity ← firstPositiveDecimalStrict client operation [row.qty,row.total,row.size]
 if !quantity.isPositive then return none
 let nativeId ← resolveEmittedNativeId client operation catalog row.symbol
 let side ← parseSide client operation row.nativeSide
 let entryPrice ← firstPositiveDecimalStrict client operation [row.averageOpenPrice,row.openPriceAvg,row.avgPrice]
 let markPrice ← parseOptionalDecimal client operation row.markPrice
 let unrealizedPnl ← parseOptionalDecimal client operation (firstNonEmpty [row.unrealisedPnl,row.unrealizedPl])
 let liquidationPrice ← optStrict client operation (firstNonEmpty [row.liquidationPrice,row.liqPrice])
 let leverage ← optStrict client operation row.leverage
 let positionSlot:=bitgetPositionSlot row.holdMode row.nativeSide side
 return some {
  nativeSymbol:=row.symbol,nativeId,positionSlot,side,quantity,entryPrice,markPrice,unrealizedPnl,
  liquidationPrice,leverage}

end

/-! ## The two streams -/

structure PositionFeed (ρ:Type) where
 symbol:ρ→String
 slot:ρ→Option PositionSlot
 nativeId:String→Except NativeError String
 convert:ρ→Except NativeError (Option Position)
 convert_spec:∀ row position,convert row=.ok (some position) →
  position.nativeSymbol=symbol row∧nativeId (symbol row)=.ok position.nativeId∧
   slot row=some position.positionSlot∧position.quantity.isPositive=true

def PositionFeed.convertPositions {ρ:Type} (feed:PositionFeed ρ) (rows:List ρ) (nativeFilter:String):
 Except NativeError (List Position):=
 ((rows.filter fun row=>nativeFilter=""∨feed.symbol row=nativeFilter).mapM feed.convert).map
  List.reduceOption

section
variable {client:ClientMeta} {operation:String} {catalog:Option (String→Except NativeError Instrument)}

theorem bybitPosition_eq_some {row:BybitPositionRow} {position:Position}
 (h:bybitPosition client operation catalog row=.ok (some position)):
 position.nativeSymbol=row.symbol∧
  resolveEmittedNativeId client operation catalog row.symbol=.ok position.nativeId∧
  slotOfIndex row.positionIdx=some position.positionSlot∧position.quantity.isPositive=true:=by
 obtain ⟨qty,-,h⟩:=bind_eq_ok h
 cases hposi : qty.isPositive with
 | false=>
  rw[hposi] at h
  cases h
 | true=>
  rw[hposi] at h
  obtain ⟨nid,hid,h⟩:=bind_eq_ok h
  obtain ⟨side,-,h⟩:=bind_eq_ok h
  obtain ⟨epr,-,h⟩:=bind_eq_ok h
  obtain ⟨upn,-,h⟩:=bind_eq_ok h
  obtain ⟨lpr,-,h⟩:=bind_eq_ok h
  obtain ⟨lvr,-,h⟩:=bind_eq_ok h
  obtain ⟨slot,hslot,h⟩:=bind_eq_ok h
  obtain rfl:=some.inj (Except.ok.inj h)
  exact ⟨rfl,hid,required_eq_ok hslot,hposi⟩

def bitgetRowSlot (row:BitgetPositionRow):Option PositionSlot:=
 if isHedged row.holdMode row.nativeSide then
  (sideOf row.nativeSide).map (bitgetPositionSlot row.holdMode row.nativeSide)
 else some .net

theorem bitgetRowSlot_eq {row:BitgetPositionRow} {side:Side} (h:sideOf row.nativeSide=some side):
 bitgetRowSlot row=some (bitgetPositionSlot row.holdMode row.nativeSide side):=by
 unfold bitgetRowSlot
 split
 · rw[h,map_some]
 · rename_i hnet
   rw[bitgetPositionSlot,if_neg hnet]

theorem bitgetPosition_eq_some {row:BitgetPositionRow} {position:Position}
 (h:bitgetPosition client operation catalog row=.ok (some position)):
 position.nativeSymbol=row.symbol∧
  resolveEmittedNativeId client operation catalog row.symbol=.ok position.nativeId∧
  bitgetRowSlot row=some position.positionSlot∧position.quantity.isPositive=true:=by
 obtain ⟨qty,-,h⟩:=bind_eq_ok h
 cases hposi : qty.isPositive with
 | false=>
  rw[hposi] at h
  cases h
 | true=>
  rw[hposi] at h
  obtain ⟨nid,hid,h⟩:=bind_eq_ok h
  obtain ⟨side,hside,h⟩:=bind_eq_ok h
  obtain ⟨epr,-,h⟩:=bind_eq_ok h
  obtain ⟨mpr1,-,h⟩:=bind_eq_ok h
  obtain ⟨upn,-,h⟩:=bind_eq_ok h
  obtain ⟨lpr,-,h⟩:=bind_eq_ok h
  obtain ⟨lvr,-,h⟩:=bind_eq_ok h
  obtain rfl:=some.inj (Except.ok.inj h)
  refine ⟨rfl,hid,?_,hposi⟩
  have hfd:sideOf row.nativeSide=some side:=required_eq_ok hside
  rw[bitgetRowSlot_eq hfd]

end

section
variable (client:ClientMeta) (catalog:Option (String→Except NativeError Instrument))

def bybitFeed:PositionFeed BybitPositionRow where
 symbol:=BybitPositionRow.symbol
 slot row:=slotOfIndex row.positionIdx
 nativeId:=resolveEmittedNativeId client "WatchPositions" catalog
 convert:=bybitPosition client "WatchPositions" catalog
 convert_spec _ _:=bybitPosition_eq_some

def bitgetFeed:PositionFeed BitgetPositionRow where
 symbol:=BitgetPositionRow.symbol
 slot:=bitgetRowSlot
 nativeId:=resolveEmittedNativeId client "WatchPositions" catalog
 convert:=bitgetPosition client "WatchPositions" catalog
 convert_spec _ _:=bitgetPosition_eq_some

end

end BolterTrader.Adapters.BybitBitget
