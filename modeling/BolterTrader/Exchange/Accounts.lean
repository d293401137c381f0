import BolterTrader.Exchange.Orders

/-! Balances, positions, fills and the events that carry them (`exchange/model.go`,
`exchange/websocket.go`). -/
namespace BolterTrader.Exchange
open Foundations

inductive EventKind where
 | unset | snapshot | delta | full
 deriving DecidableEq

inductive PositionSlot where
 | unset | net | long | short
 deriving DecidableEq

structure Balance where
 asset:String:=""
 available:Decimal:={}
 locked:Decimal:={}
 total:Decimal:={}

structure Position where
 nativeSymbol:String:=""
 nativeId:String:=""
 positionSlot:PositionSlot:=.unset
 side:Side:=.unset
 quantity:Decimal:={}
 entryPrice:Decimal:={}
 markPrice:Decimal:={}
 unrealizedPnl:Decimal:={}
 liquidationPrice:OptionalDecimal:=none
 leverage:OptionalDecimal:=none
 marginUsed:OptionalDecimal:=none
 deriving DecidableEq

inductive Liquidity where
 | unset | maker | taker

structure Fill where
 nativeSymbol:String:=""
 nativeId:String:=""
 orderId:String:=""
 clientOrderId:String:=""
 fillId:String:=""
 side:Side:=.unset
 price:Decimal:={}
 quantity:Decimal:={}
 fee:Decimal:={}
 feeAsset:String:=""
 liquidity:Liquidity:=.unset
 time:Timestamp:=none

structure BalanceEvent where
 kind:EventKind:=.unset
 balances:List Balance:=[]

structure PositionEvent where
 kind:EventKind:=.unset
 positions:List Position:=[]

structure OrderEvent where
 kind:EventKind:=.unset
 order:Order

structure FillEvent where
 kind:EventKind:=.unset
 fill:Fill

end BolterTrader.Exchange
