import BolterTrader.Exchange.Accounts
import BolterTrader.Foundations.Collections
import BolterTrader.Foundations.DecimalArith
import BolterTrader.Foundations.KeyedRows
import BolterTrader.Gateway.Classify
import Mathlib.Data.Prod.Lex
import Mathlib.Data.String.Basic

/-! What the gateway remembers of an account: the open positions and the balances
of each market, and how an event of the private stream changes them
(`gateway/account/runtime.go`, `gateway/account/model.go`). -/
namespace BolterTrader.Gateway
open Foundations Foundations.KeyedRows Exchange

structure Market where
 venue:Venue
 product:Product
 settlement:String:=""
 deriving DecidableEq

def Market.text (market:Market):String:=
 if market.settlement="" then market.venue.text ++ ":" ++ market.product.text
 else market.venue.text ++ ":" ++ market.product.text ++ ":" ++ market.settlement

inductive PositionSide where
 | long | short
 deriving DecidableEq

def PositionSide.text:PositionSide→String
 | .long => "long"
 | .short => "short"

structure PositionRow where
 instrument:String
 side:PositionSide
 size:String
 entryPrice:String
 markPrice:String
 unrealizedPnl:String
 liquidationPrice:String
 leverage:String
 margin:String
 slot:PositionSlot
 deriving DecidableEq

structure BalanceRow where
 market:String
 asset:String
 total:String
 available:String
 locked:String
 deriving DecidableEq

structure Runtime where
 positions:Market→List PositionRow:=fun _=>[]
 balances:Market→List BalanceRow:=fun _=>[]
 loaded:Market→Bool:=fun _=>false

/-! ## Positions -/

def positionSide (position:Position):PositionSide:=
 match position.positionSlot with
 | .short=>.short
 | .long=>.long
 | _=>if position.quantity.isNegative || position.side == .sell then .short else .long

def projectPosition (id:String) (position:Position):Option PositionRow:=
 if position.quantity.isZero then none
 else some {
  instrument:=id
  side:=positionSide position
  size:=position.quantity.abs.toText
  entryPrice:=position.entryPrice.toText
  markPrice:=positiveText position.markPrice
  unrealizedPnl:=position.unrealizedPnl.toText
  liquidationPrice:=(position.liquidationPrice.map positiveText).getD ""
  leverage:=(position.leverage.map positiveText).getD ""
  margin:=(position.marginUsed.map Decimal.toText).getD ""
  slot:=position.positionSlot}

def positionLess (a b:PositionRow):Bool:=
 if a.instrument≠b.instrument then decide (a.instrument<b.instrument)
 else decide (a.side.text<b.side.text)

def foldPositions (sortPositions:SliceSort positionLess) (current:List PositionRow) (id:String)
 (event:PositionEvent):List PositionRow:=
 let incomingSlots:=event.positions.map (·.positionSlot)
 let kept:=current.filter fun position=>
  position.instrument≠id || event.kind≠.snapshot && !incomingSlots.contains position.slot
 sortPositions.sort (kept++event.positions.filterMap (projectPosition id))

def Runtime.applyPositionEvent (sortPositions:SliceSort positionLess) (rt:Runtime) (market:Market)
 (id:String) (event:PositionEvent):Runtime:=
 {rt with
   positions:=Function.update rt.positions market (foldPositions sortPositions (rt.positions market) id event)
   loaded:=Function.update rt.loaded market true}

/-! ## Balances -/

def isEmptyBalance (item:Balance):Bool:=item.total.isZero && item.available.isZero && item.locked.isZero

def projectBalance (market:Market) (item:Balance):BalanceRow:=
 { market:=market.text
   asset:=item.asset
   total:=item.total.toText
   available:=item.available.toText
   locked:=item.locked.toText}

def setBalance (market:Market) (byAsset:List BalanceRow) (item:Balance):List BalanceRow:=
 if isEmptyBalance item then erase BalanceRow.asset byAsset item.asset
 else put BalanceRow.asset byAsset (projectBalance market item)

def balanceLess (a b:BalanceRow):Bool:=decide (a.asset<b.asset)

def foldBalances (sort:SliceSort balanceLess) (market:Market) (current:List BalanceRow)
 (event:BalanceEvent):List BalanceRow:=
 let stored:=current.foldl (put BalanceRow.asset) []
 sort.sort (event.balances.foldl (setBalance market) stored)

def Runtime.applyBalanceEvent (sort:SliceSort balanceLess) (rt:Runtime) (market:Market)
 (event:BalanceEvent):Runtime:=
 {rt with
   balances:=Function.update rt.balances market (foldBalances sort market (rt.balances market) event)}

/-! ## Sorting -/

theorem positionLess_eq (a b:PositionRow):positionLess a b =
 decide (toLex (a.instrument,a.side.text)<toLex (b.instrument,b.side.text)):=by
 grind [positionLess,Prod.Lex.toLex_lt_toLex]

def sortPositions:SliceSort positionLess:=
 .byKey positionLess (fun row=>toLex (row.instrument,row.side.text)) positionLess_eq

def sortBalances:SliceSort balanceLess:=.byKey balanceLess BalanceRow.asset fun _ _=>rfl

end BolterTrader.Gateway
