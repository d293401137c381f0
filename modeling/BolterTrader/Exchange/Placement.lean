import BolterTrader.Exchange.ExactLookup
import BolterTrader.Foundations.DecimalArith
import BolterTrader.Foundations.Fallible

/-! The check that a placement has to pass before any venue is called
(`PlaceOrderRequest.Validate` in `exchange/model.go`). -/
namespace BolterTrader.Exchange
open Foundations Foundations.Fallible

def decimalAligned (value increment:Decimal):Bool:=
 let scale:=Decimal.commonScale value increment
 increment.isPositive && decide ((value.coefficientAt scale).tmod (increment.coefficientAt scale)=0)

def PlaceOrderRequest.validateType (request:PlaceOrderRequest):Except Error Unit:=
 match request.type with
 | .market=>do
  refuse (request.limitPrice.isZero=false) (invalidRequest "market order must not include a limit price")
  refuse (request.limitPolicy≠.unset) (invalidRequest "market order must not include a limit policy")
 | .limit=>do
  refuse (request.limitPrice.isPositive=false) (invalidRequest "limit order price must be positive")
  refuse (decimalAligned request.limitPrice request.instrument.rules.priceIncrement=false)
   (invalidRequest "limit order price is not aligned to instrument price increment")
  refuse (request.limitPolicy=.unset) (invalidRequest "limit order policy must be resting, ioc, or post_only")
 | .unset=>.error (invalidRequest "order type must be market or limit")

def PlaceOrderRequest.belowNotional (request:PlaceOrderRequest):Bool:=
 (request.instrument.rules.minNotional.map fun least=>
  request.limitPrice.isPositive && (request.quantity.mul request.limitPrice).lessThan least).getD false

def PlaceOrderRequest.validate (product:Product) (request:PlaceOrderRequest):Except Error Unit:=do
 refuse (product≠.spot∧product≠.perp) (invalidRequest "unknown product")
 check request.instrument.validate
 refuse (request.instrument.identity.product≠product)
  (invalidRequest "instrument product does not match request product")
 refuse (request.side=.unset) (invalidRequest "side must be buy or sell")
 refuse (request.quantity.isPositive=false) (invalidRequest "quantity must be positive")
 refuse (decimalAligned request.quantity request.instrument.rules.quantityIncrement=false)
  (invalidRequest "quantity is not aligned to instrument quantity increment")
 refuse (request.quantity.lessThan request.instrument.rules.minQuantity)
  (invalidRequest "quantity is below instrument minimum quantity")
 refuse request.belowNotional (invalidRequest "order notional is below instrument minimum notional")
 refuse (isPortableClientOrderId request.clientOrderId=false)
  (invalidRequest "client order id must be a positive decimal uint48")
 refuse (product=.spot∧request.reduceOnly)
  (invalidRequest "reduce-only is available only for perpetual products")
 request.validateType

theorem PlaceOrderRequest.quantity_pos {prod:Product} {req:PlaceOrderRequest} {u:Unit}
 (h:req.validate prod=.ok u):0<req.quantity.value:=by
 have hside:=past (past (past h))
 obtain ⟨_,hq,-⟩:=bind_eq_ok (past hside)
 have hposi:=refuse_eq_ok hq
 rw[Bool.not_eq_false] at hposi
 exact (Decimal.isPositive_iff _).mp hposi

end BolterTrader.Exchange
