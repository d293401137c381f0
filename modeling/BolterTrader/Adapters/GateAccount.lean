import BolterTrader.Adapters.AccountEvents
import BolterTrader.Adapters.GateOrders
import Mathlib.Data.List.ReduceOption

/-! Gate futures positions and fills (`gate.go`, `gate_rest.go`, `gate_ws.go`). -/
namespace BolterTrader.Adapters.Gate
open Foundations Foundations.Fallible Exchange List

def perp:ClientMeta:={venue:=.gate,product:=.perp}

/-! ## Instruments -/

def gateCatalogInstrumentByNative (client:ClientMeta) (operation:String)
  (catalog:Option (String→Except NativeError Instrument)) (native:String):Except NativeError Instrument:=do
 refuse (GoText.trimSpace native="")
  (client.catalogMetadataResolution operation "native instrument symbol is missing")
 let resolve ← required (client.catalogMetadataResolution operation "instrument catalog is not configured") catalog
 (resolve native).mapError (withExchangeOperation · operation)

def gateOptionalNativeInstrument (client:ClientMeta) (operation:String):
  Option Instrument→Except NativeError (Option String)
 | none=>.ok none
 | some instrument=>do
  let invalid (message:String):NativeError:=
   newError .invalidRequest
    {venue:=client.venue,product:=client.product,operation,safeMessage:=message}
  check (instrument.validate.map fun err=>invalid err.text)
  refuse (instrument.identity.venue≠client.venue∨instrument.identity.product≠client.product)
   (invalid "instrument venue/product does not match client")
  return some instrument.identity.nativeSymbol

/-! ## Positions -/

structure PositionRow where
 contract:String
 size:Int64
 leverage:String:=""
 margin:String:=""
 entryPrice:String:=""
 liqPrice:String:=""
 markPrice:String:=""
 unrealisedPnl:String:=""

def gateValidatePosition (client:ClientMeta) (operation:String) (row:PositionRow):Option NativeError:=
 [("leverage",row.leverage),("margin",row.margin),("entry price",row.entryPrice),
  ("liq price",row.liqPrice),("mark price",row.markPrice),("unrealised pnl",row.unrealisedPnl)].findSome?
  fun field=>gateValidateDecimal client operation field.1 field.2

def gateValidatePositions (client:ClientMeta) (operation:String) (rows:List PositionRow):
 Option NativeError:=
 rows.findSome? (gateValidatePosition client operation)

def gatePosition (instrument:Instrument) (multiplier:Decimal) (row:PositionRow):Position:=
 { nativeSymbol:=row.contract
   nativeId:=instrument.identity.nativeId
   side:=if row.size<0 then .sell else .buy
   quantity:=(Decimal.ofInt (abs64 row.size).toInt).mul multiplier
   entryPrice:=gateDecimal row.entryPrice
   markPrice:=gateDecimal row.markPrice
   unrealizedPnl:=gateDecimal row.unrealisedPnl
   liquidationPrice:=gateOptionalDecimal row.liqPrice
   leverage:=gateOptionalDecimal row.leverage
   marginUsed:=gateOptionalDecimal row.margin}

section
variable (client:ClientMeta) (catalog:Option (String→Except NativeError Instrument))

def listedPosition (requested:Option String) (row:PositionRow):Except NativeError (Option Position):=
 if (∃ native∈requested,row.contract≠native)∨row.size=0 then .ok none
 else do
  let instrument ← gateCatalogInstrumentByNative client "Positions" catalog row.contract
  let multiplier ← gateContractMultiplier client "Positions" instrument
  return some (gatePosition instrument multiplier row)

def positions (request:Option Instrument) (answer:Except NativeError (List PositionRow)):
  Except NativeError (List Position):=do
 let rows ← answer
 check (gateValidatePositions client "Positions" rows)
 let requested ← gateOptionalNativeInstrument client "Positions" request
 let listed ← rows.mapM (listedPosition client catalog requested)
 return listed.reduceOption

end

def positionEvents (metas:String→Option (Instrument×Decimal)):
  List PositionRow→List PositionBackendEvent×Option NativeError
 | []=>([],none)
 | row::rest=>
  match metas row.contract with
  | none=>([],some (.leaf (.message "gate account position instrument is unknown")))
  | some (instrument,multiplier)=>
   let event : PositionEvent:={kind:=.delta,positions:=[gatePosition instrument multiplier row]}
   let (events,err):=positionEvents metas rest
   ({nativeSymbol:=row.contract,event}::events,err)

def handlePositions (metas:String→Option (Instrument×Decimal)) (message:Except String (List PositionRow)):
 List PositionBackendEvent×Option NativeError:=
 match message with
 | .error text=>([],some (gateMalformed perp "WatchAccountEvents" text))
 | .ok rows=>
  match gateValidatePositions perp "WatchAccountEvents" rows with
  | some err=>([],some err)
  | none=>positionEvents metas rows

/-! ## Fills -/

structure FuturesTrade where
 id:Int64:=0
 createTime:String:=""
 contract:String
 orderId:Int64:=0
 size:Int64
 price:String:=""
 role:String:=""
 text:String:=""
 fee:String:=""

def gateValidateLiquidity (client:ClientMeta) (operation word:String):Option NativeError:=
 if GoText.trimSpace word=""∨GoText.toLower word∈["maker","taker"] then none
 else some (gateMalformed client operation "invalid gate liquidity")

def gateValidateFuturesFill (client:ClientMeta) (operation:String) (row:FuturesTrade):Option NativeError:=
 (gateValidateDecimal client operation "fill price" row.price).or <|
 (gateValidateDecimal client operation "fill fee" row.fee).or <|
 gateValidateLiquidity client operation row.role

def gateValidateFuturesFills (client:ClientMeta) (operation:String) (rows:List FuturesTrade):
 Option NativeError:=
 rows.findSome? (gateValidateFuturesFill client operation)

def gateLiquidity (word:String):Liquidity:=if GoText.equalFold word "maker" then .maker else .taker

def gateUnixSecondDecimalString (text:String):Timestamp:=
 match Decimal.ofString? (GoText.trimSpace text) with
 | none=>none
 | some seconds=>
  if !seconds.isPositive then none
  else
   let whole:=seconds.intPart.toInt
   let nanos:=((seconds.sub (.ofInt whole)).mul (.ofInt 1000000000)).intPart.toInt
   some (whole*1000000000+nanos)

def gateFuturesFill (instrument:Instrument) (multiplier:Decimal) (row:FuturesTrade):Fill:=
 { nativeSymbol:=row.contract
   nativeId:=instrument.identity.nativeId
   orderId:=gateOrderId row.orderId
   clientOrderId:=gatePortableClientOrderId row.text
   fillId:=gateOrderId row.id
   side:=if row.size<0 then .sell else .buy
   price:=gateDecimal row.price
   quantity:=(Decimal.ofInt (abs64 row.size).toInt).mul multiplier
   fee:=gateDecimal row.fee
   feeAsset:="USDT"
   liquidity:=gateLiquidity row.role
   time:=gateUnixSecondDecimalString row.createTime}

def gateFuturesFills (rows:List FuturesTrade) (instrument:Instrument) (multiplier:Decimal):List Fill:=
 rows.map (gateFuturesFill instrument multiplier)

def gateFuturesFillEvents (message:Except String (List FuturesTrade)) (instrument:Instrument)
  (multiplier:Decimal):Except NativeError (List FillEvent):=do
 let rows ← message.mapError (gateMalformed perp "WatchFills")
 check (gateValidateFuturesFills perp "WatchFills" rows)
 return (gateFuturesFills rows instrument multiplier).map fun fill=>{kind:=.delta,fill}

/-! ## Fills of one contract -/

def emittedFills (message:Except String (List FuturesTrade)) (instrument:Instrument) (multiplier:Decimal):
 List FillEvent:=
 match gateFuturesFillEvents message instrument multiplier with
 | .ok events=>events
 | .error _=>[]

def contractFill (instrument:Instrument) (multiplier:Decimal) (row:FuturesTrade):FillEvent:=
 { kind:=.delta
   fill:=
    {gateFuturesFill instrument multiplier row with
      quantity:=(Decimal.ofInt |row.size.toInt|).mul multiplier}}

def ownRows (instrument:Instrument) (rows:List FuturesTrade):List FuturesTrade:=
 rows.filter fun row=>row.contract=instrument.identity.nativeSymbol

theorem multiplier_pos {client:ClientMeta} {op:String} {ins:Instrument} {mlt:Decimal}
 (h:gateContractMultiplier client op ins=.ok mlt):0< mlt.coefficient:=by
 have hfd:=required_eq_ok (past h)
 simpa[Decimal.isPositive] using (Option.filter_eq_some_iff.mp hfd).2

theorem contractFill_eq_iff {ins:Instrument} {mlt:Decimal} (hpos:0< mlt.coefficient)
 (row:FuturesTrade):({kind:=.delta,fill:=gateFuturesFill ins mlt row}:FillEvent) =
  contractFill ins mlt row ↔ row.size≠Int64.minValue:=by
 constructor
 · rintro hfill hmin
   have hq:=congrArg (fun ev:FillEvent=>ev.fill.quantity.coefficient) hfill
   simp only[gateFuturesFill,contractFill,Decimal.mul,Decimal.ofInt,hmin] at hq
   have hleft:(abs64 Int64.minValue).toInt = -9223372036854775808:=by decide
   grind
 · intro hsize
   simp only[gateFuturesFill,contractFill,abs64_toInt hsize]

theorem emittedFills_valid {rows:List FuturesTrade} (hval:gateValidateFuturesFills perp "WatchFills" rows=none)
 (ins:Instrument) (mlt:Decimal):emittedFills (.ok rows) ins mlt =
  rows.map fun row=>{kind:=.delta,fill:=gateFuturesFill ins mlt row}:=by
 unfold emittedFills gateFuturesFillEvents
 simp[Except.mapError,hval,check,gateFuturesFills,bind,Except.bind,pure,Except.pure,Function.comp_def]

theorem emittedFills_invalid {rows:List FuturesTrade} {err:NativeError}
 (hinv:gateValidateFuturesFills perp "WatchFills" rows=some err) (ins:Instrument)
 (mlt:Decimal):emittedFills (.ok rows) ins mlt=[]:=by
 unfold emittedFills gateFuturesFillEvents
 simp[Except.mapError,hinv,check,bind,Except.bind]

/-- Which messages give a subscriber exactly the fills of its own contract. -/
theorem emittedFills_own_iff (instrument:Instrument) (multiplier:Decimal) (rows:List FuturesTrade)
 (hmultiplier:gateContractMultiplier perp "WatchFills" instrument=.ok multiplier):
 emittedFills (.ok rows) instrument multiplier =
   (ownRows instrument rows).map (contractFill instrument multiplier) ↔
  if (gateValidateFuturesFills perp "WatchFills" rows).isNone then
   ∀ row∈rows,row.contract=instrument.identity.nativeSymbol∧row.size≠Int64.minValue
  else ∀ row∈rows,row.contract≠instrument.identity.nativeSymbol:=by
 have hpos:=multiplier_pos hmultiplier
 cases hchk : gateValidateFuturesFills perp "WatchFills" rows with
 | some=>
  rw[emittedFills_invalid hchk,if_neg (by simp),eq_comm,map_eq_nil_iff]
  simp[ownRows,filter_eq_nil_iff]
 | none=>
  rw[emittedFills_valid hchk,if_pos Option.isNone_none]
  constructor
  · intro hfil
    -- As many events as own rows: every row is one of them.
    have hlen:=congrArg List.length hfil
    rw[length_map,length_map] at hlen
    have hown:ownRows instrument rows=rows:=filter_sublist.eq_of_length hlen.symm
    rw[hown] at hfil
    intro row hrow
    refine ⟨by simpa using filter_eq_self.mp hown row hrow,?_⟩
    exact (contractFill_eq_iff hpos row).mp (map_inj_left.mp hfil row hrow)
  · intro hrows
    have hown:ownRows instrument rows=rows:=
     filter_eq_self.mpr fun row hrow=>decide_eq_true (hrows row hrow).1
    rw[hown]
    exact map_congr_left fun row hrow=>(contractFill_eq_iff hpos row).mpr (hrows row hrow).2

def btcUsdt:Instrument:=
 { identity:=
    { venue:=.gate,product:=.perp,symbol:="BTC/USDT",nativeSymbol:="BTC_USDT",nativeId:="BTC_USDT",
      baseAsset:="BTC",quoteAsset:="USDT",settleAsset:="USDT" }
   rules:={priceIncrement:=⟨1,-1⟩,quantityIncrement:=⟨1,-4⟩}
   encoding:={contractMultiplier:=some ⟨1,-4⟩}}

def ownFills:List FuturesTrade:=
 [{id:=1,contract:="BTC_USDT",size:=300},{id:=2,contract:="BTC_USDT",size:=-200}]

theorem emittedFills_own:emittedFills (.ok ownFills) btcUsdt ⟨1,-4⟩ =
 (ownRows btcUsdt ownFills).map (contractFill btcUsdt ⟨1,-4⟩):=
 (emittedFills_own_iff btcUsdt ⟨1,-4⟩ ownFills (by rfl)).mpr (by decide)

theorem emittedFills_foreign :
  let rows : List FuturesTrade:=
   [{id:=1,contract:="BTC_USDT",size:=300},{id:=2,contract:="ETH_USDT",size:=10}]
  gateContractMultiplier perp "WatchFills" btcUsdt=.ok ⟨1,-4⟩∧
  (emittedFills (.ok rows) btcUsdt ⟨1,-4⟩).map (fun event=>(event.fill.fillId,event.fill.nativeId,
   event.fill.quantity.toText))=[("1","BTC_USDT","0.03"),("2","BTC_USDT","0.001")]∧
  (ownRows btcUsdt rows).map (·.id)=[1]:=
 ⟨by rfl,by decide,by decide⟩

end BolterTrader.Adapters.Gate
