import BolterTrader.Foundations.JsonStruct

/-! What a request costs and which command it carries
(`internal/venuehttp/policy.go`). -/
namespace BolterTrader.RequestPolicy
open Foundations

inductive Action where
 | none | read | place | cancel
 deriving DecidableEq

structure Request where
 venue:String
 method:String
 path:String
 query:List (String×String):=[]
 body:Option String:=none
 form:Option (List (String×Option String)):=none
 deriving DecidableEq

structure HTTPPolicy where
 venue:String
 endpoint:String
 cost:ℕ:=1
 action:Action:=.none

/-! ## Texts -/

def index (part:List Char):List Char→Option ℕ
 | []=>if part.isEmpty then some 0 else none
 | c::rest=>if part.isPrefixOf (c::rest) then some 0 else (index part rest).map (· + 1)

def hasPrefix (s start:String):Bool:=start.toList.isPrefixOf s.toList
def afterLastSlash (s:String):String:=String.ofList (s.toList.reverse.takeWhile (· ≠ '/')).reverse
def Request.get (r:Request) (name:String):String:=((r.query.find? fun pair=>pair.1=name).map (·.2)).getD ""

/-! ## Bodies -/

def requestBodyFields (r:Request):List (List Char×Json.Value):=
 match r.body.bind fun text=>Json.parse (GoText.takeBytes 65536 text.toList) with
 | some (.obj fields)=>fields
 | _=>[]

def bodyField (fields:List (List Char×Json.Value)) (name:String):Option Json.Value:=
 ((fields.reverse.find? fun field=>Json.unquote field.1=name).map (·.2))

def rawItems:Json.Value→Option (List Json.Value)
 | .arr items=>some items
 | .null=>some []
 | _=>none

def kindOf:Option Json.Value→String
 | some (.str raw)=>Json.unquote raw
 | _ => ""

structure ExchangeAction where
 type:String:=""
 orders:List Json.Value:=[]
 cancels:List Json.Value:=[]

def ExchangeAction.set (action:ExchangeAction) (field:List Char×Json.Value):Option ExchangeAction:=
 match Json.structField ["type","orders","cancels"] (Json.unquote field.1),field.2 with
 | some "type",.str raw=>some {action with type:=Json.unquote raw}
 | some "type",.null=>some action
 | some "type",_=>none
 | some "orders",v=>(rawItems v).map fun orders=>{action with orders}
 | some "cancels",v=>(rawItems v).map fun cancels=>{action with cancels}
 | _,_=>some action

def exchangeAction:Option Json.Value→Option ExchangeAction
 | some (.obj fields)=>fields.foldlM ExchangeAction.set {}
 | some .null=>some {}
 | _=>none

def stringCount (text:String):Option ℕ:=
 match Json.parse text.toList with
 | some (.arr items)=>
  if items.all fun
   | .str _ | .null=>true
   | _=>false then some items.length else none
 | some .null=>some 0
 | _=>none

/-! ## Costs -/

def limitOf (r:Request) (default:Int):Int:=
 let limit:=Decimal.parseInt64 (r.get "limit")
 if limit≤0 then default else limit

def spotCost (r:Request):String→Option ℕ
 | "ping" | "time" => some 1
 | "exchangeInfo" | "account" | "myTrades" => some 20
 | "order" => some 4
 | "openOrders" => some (if r.get "symbol" = "" then 80 else 6)
 | "depth" =>
  let limit:=limitOf r 100
  some (if limit≤100 then 5 else if limit≤500 then 25 else if limit≤1000 then 50 else 250)
 | "klines" | "uiKlines" | "avgPrice" => some 2
 | "ticker/price" | "ticker/bookTicker" => some (if r.get "symbol" = "" then 4 else 2)
 | "ticker/24hr" =>
  if r.get "symbol" ≠ "" then some 2
  else
   match stringCount (r.get "symbols") with
   | some count=>some (if 0<count∧count≤20 then 2 else if 0<count∧count≤100 then 40 else 80)
   | none=>some 80
 | _=>none

def perpCost (r:Request):String→Option ℕ
 | "ping" | "time" | "exchangeInfo" | "openInterest" | "order" => some 1
 | "depth" =>
  let limit:=limitOf r 500
  some (if limit≤50 then 2 else if limit≤100 then 5 else if limit≤500 then 10 else 20)
 | "ticker" | "24hr" => some (if r.get "symbol" = "" then 40 else 1)
 | "bookTicker" => some (if r.get "symbol" = "" then 5 else 2)
 | "price" => some (if r.get "symbol" = "" then 2 else 1)
 | "premiumIndex" => some (if r.get "symbol" = "" then 10 else 1)
 | "klines" | "markPriceKlines" | "indexPriceKlines" =>
  let limit:=limitOf r 500
  some (if limit<100 then 1 else if limit<500 then 2 else if limit≤1000 then 5 else 10)
 | "account" | "balance" | "positionRisk" | "userTrades" | "allOrders" => some 5
 | "openOrders" => some (if r.get "symbol" = "" then 40 else 1)
 | "fundingRate" | "fundingInfo" => some 1
 | _=>none

def binanceRequestCost (r:Request):ℕ:=
 if r.method≠"GET" then 1
 else
  let spot:=if hasPrefix r.path "/api/v3/" then spotCost r (GoText.trimPrefix r.path "/api/v3/") else none
  let perp:=if hasPrefix r.path "/fapi/" then perpCost r (afterLastSlash r.path) else none
  (spot.or perp).getD 20

def infoCost:String→ℕ
 | "l2Book" | "allMids" | "clearinghouseState" | "spotClearinghouseState" | "orderStatus" | "exchangeStatus" => 2
 -- room for the 2000 rows that these may return
 | "historicalOrders" | "userFills" | "userFillsByTime" | "userTwapSliceFills" => 120
 | "userRole" => 60
 | "candleSnapshot" => 105
 | _=>20

def lighterAction (r:Request) (fallback:Action):Action:=
 if r.method≠"POST"∨r.path≠"/api/v1/sendTx"∨r.body=none then fallback
 else
  match r.form.bind fun parts=>parts.find? fun part=>part.1="tx_type" with
  | some (_,some "14")=>.place
  | some (_,some "15") | some (_,some "16")=>.cancel
  | _=>fallback

/-! ## The policy of a request -/

def endpointPath (path:String):String:=
 match index "/orders/".toList path.toList with
 | some found=>String.ofList (path.toList.take found) ++ "/orders/:id"
 | none=>path

def basePolicy (r:Request):HTTPPolicy where
 venue:=r.venue
 endpoint:=r.method ++ " " ++ endpointPath r.path
 action:=if r.method="GET" then .read else .none

def binancePolicy (r:Request) (policy:HTTPPolicy):HTTPPolicy:=
 {policy with
   action:=
    if r.method="DELETE"∧GoText.contains (GoText.toLower r.path) "order" then .cancel
    else if r.method="POST"∧(GoText.hasSuffix r.path "/order"∨GoText.hasSuffix r.path "/batchOrders") then .place
    else policy.action
   cost:=if policy.venue="binance" then binanceRequestCost r else policy.cost}

def bybitPolicy (r:Request) (policy:HTTPPolicy):HTTPPolicy:=
 {policy with
   action:=
    if hasPrefix r.path "/v5/order/cancel" then .cancel
    else if hasPrefix r.path "/v5/order/create" then .place
    else policy.action
   cost:=
    match (bodyField (requestBodyFields r) "request").bind rawItems with
    | some items=>if 1< items.length then items.length else policy.cost
    | none=>policy.cost}

def bitgetPolicy (r:Request) (policy:HTTPPolicy):HTTPPolicy:=
 {policy with
   action:=
    if GoText.contains r.path "/cancel-"∨GoText.contains r.path "/batch-cancel-" then .cancel
    else if GoText.hasSuffix r.path "/place-order"∨GoText.hasSuffix r.path "/batch-place-order" then .place
    else policy.action}

def okxPolicy (r:Request) (policy:HTTPPolicy):HTTPPolicy:=
 {policy with
   action:=
    if hasPrefix r.path "/api/v5/trade/cancel-" then .cancel
    else if r.method="POST"∧(r.path="/api/v5/trade/order"∨r.path="/api/v5/trade/batch-orders") then .place
    else policy.action}

def gatePolicy (r:Request) (policy:HTTPPolicy):HTTPPolicy:=
 {policy with
   action:=
    if r.method="DELETE"∧GoText.contains r.path "/orders" then .cancel
    else if r.method="POST"∧GoText.hasSuffix r.path "/orders" then .place
    else policy.action}

def hyperliquidPolicy (r:Request) (policy:HTTPPolicy):HTTPPolicy:=
 if r.path="/info" then
  let kind:=kindOf (bodyField (requestBodyFields r) "type")
  {policy with action:=.read,cost:=infoCost kind,endpoint:=policy.endpoint ++ "/" ++ kind}
 else if r.path="/exchange" then
  match exchangeAction (bodyField (requestBodyFields r) "action") with
  | some action=>
   {policy with
     action:=
      if action.type="order" then .place
      else if action.type="cancel"∨action.type="cancelByCloid" then .cancel
      else policy.action
     cost:=1+(action.orders.length+action.cancels.length)/40
     endpoint:=policy.endpoint ++ "/" ++ action.type}
  | none=>policy
 else policy

def nadoPolicy (r:Request) (policy:HTTPPolicy):HTTPPolicy:=
 let has:=fun name=>(bodyField (requestBodyFields r) name).isSome
 {policy with
   action:=
    if GoText.hasSuffix r.path "/execute" then
     if has "cancel_orders"∨has "cancel_product_orders" then .cancel
     else if has "place_order" then .place
     else policy.action
    else .read}

def policyForRequest (r:Request):HTTPPolicy:=
 match r.venue with
 | "binance" | "aster" => binancePolicy r (basePolicy r)
 | "bybit" => bybitPolicy r (basePolicy r)
 | "bitget" => bitgetPolicy r (basePolicy r)
 | "okx" => okxPolicy r (basePolicy r)
 | "gate" => gatePolicy r (basePolicy r)
 | "hyperliquid" => hyperliquidPolicy r (basePolicy r)
 | "lighter" => {basePolicy r with action:=lighterAction r (basePolicy r).action}
 | "nado" => nadoPolicy r (basePolicy r)
 | _=>basePolicy r

structure SingleOrder (r:Request):Prop where
 batch:∀ items,(bodyField (requestBodyFields r) "request").bind rawItems=some items→ items.length≤1
 action:∀ action,exchangeAction (bodyField (requestBodyFields r) "action")=some action →
  action.orders.length+action.cancels.length≤1

section
variable {r:Request}

theorem binancePolicy_cost (place:HTTPPolicy) (hcost:place.cost=1) (hmet:r.method≠"GET"):
 (binancePolicy r place).cost=1:=by
 simp[binancePolicy,binanceRequestCost,hmet,hcost]

theorem bybitPolicy_cost (place:HTTPPolicy) (hcost:place.cost=1) (hsg:SingleOrder r):
 (bybitPolicy r place).cost=1:=by
 simp only[bybitPolicy]
 split
 next its hit=>
  have hle:=hsg.batch its hit
  rw[if_neg (by omega),hcost]
 next=>exact hcost

theorem hyperliquidPolicy_cost (place:HTTPPolicy) (hcost:place.cost=1) (hsg:SingleOrder r)
 (hact:(hyperliquidPolicy r place).action=.cancel):(hyperliquidPolicy r place).cost=1:=by
 unfold hyperliquidPolicy at hact ⊢
 split at hact
 next=>simp at hact
 next hinfo=>
  rw[if_neg hinfo]
  split
  next=>
   split
   next act hdec=>
    have hle:=hsg.action act hdec
    show 1+_/40=1
    omega
   next=>exact hcost
  next=>exact hcost

theorem method_of_binance_cancel (h:(binancePolicy r (basePolicy r)).action=.cancel):r.method≠"GET" := by
 intro hget
 simp[binancePolicy,basePolicy,hget] at h

theorem cancel_cost (h:(policyForRequest r).action=.cancel) (hsg:SingleOrder r):
 (policyForRequest r).cost=1:=by
 unfold policyForRequest at h ⊢
 split at h
 next=>exact binancePolicy_cost _ rfl (method_of_binance_cancel h)
 next=>exact binancePolicy_cost _ rfl (method_of_binance_cancel h)
 next=>exact bybitPolicy_cost _ rfl hsg
 next=>rfl
 next=>rfl
 next=>rfl
 next=>exact hyperliquidPolicy_cost _ rfl hsg h
 next=>rfl
 next=>rfl
 next=>simp[basePolicy]

theorem basePolicy_endpoint (r:Request):(basePolicy r).endpoint≠"" := by
 intro h
 have htext:=congrArg String.toList h
 simp[basePolicy,String.toList_append] at htext

theorem append_ne_empty {text:String} (h:text≠"") (more:String):text++more≠"" := by
 intro heq
 have htext:=congrArg String.toList heq
 rw[String.toList_append,String.toList_empty,List.append_eq_nil_iff] at htext
 exact h (String.toList_eq_nil_iff.mp htext.1)

theorem endpoint_ne_empty (r:Request):(policyForRequest r).endpoint≠"" := by
 have hbase:=basePolicy_endpoint r
 unfold policyForRequest
 split
 case h_7=>
  unfold hyperliquidPolicy
  grind [append_ne_empty]
 all_goals exact hbase

end

end BolterTrader.RequestPolicy
