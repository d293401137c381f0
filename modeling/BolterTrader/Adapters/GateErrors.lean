import BolterTrader.Adapters.HttpErrors

/-! Gate errors (`sdk/gate/client.go`, `gate.go`). -/
namespace BolterTrader.Adapters.Gate
open Foundations Exchange

def definitiveLabels:List String:=
 ["INVALID_PARAM_VALUE","INVALID_PROTOCOL","INVALID_ARGUMENT","INVALID_REQUEST_BODY",
  "MISSING_REQUIRED_PARAM","BAD_REQUEST","INVALID_CONTENT_TYPE","NOT_ACCEPTABLE","METHOD_NOT_ALLOWED",
  "NOT_FOUND","INVALID_CREDENTIALS","INVALID_KEY","IP_FORBIDDEN","READ_ONLY","INVALID_SIGNATURE",
  "MISSING_REQUIRED_HEADER","REQUEST_EXPIRED","ACCOUNT_LOCKED","FORBIDDEN","INVALID_CLIENT_ORDER_ID",
  "INVALID_PRECISION","INVALID_CURRENCY","INVALID_CURRENCY_PAIR","POC_FILL_IMMEDIATELY",
  "ORDER_NOT_FOUND","ORDER_CLOSED","ORDER_CANCELLED","QUANTITY_NOT_ENOUGH","BALANCE_NOT_ENOUGH",
  "MARGIN_NOT_SUPPORTED","MARGIN_BALANCE_NOT_ENOUGH","AMOUNT_TOO_LITTLE","AMOUNT_TOO_MUCH",
  "TOO_MANY_CURRENCY_PAIRS","TOO_MANY_ORDERS","MIXED_ACCOUNT_TYPE","AUTO_BORROW_TOO_MUCH",
  "TRADE_RESTRICTED","FOK_NOT_FILL","INITIAL_MARGIN_TOO_LOW","ORDER_BOOK_NOT_FOUND","USER_NOT_FOUND",
  "CONTRACT_NO_COUNTER","CONTRACT_NOT_FOUND","RISK_LIMIT_EXCEEDED","INSUFFICIENT_AVAILABLE",
  "LIQUIDATE_IMMEDIATELY","LEVERAGE_TOO_HIGH","LEVERAGE_TOO_LOW","ORDER_NOT_OWNED","ORDER_FINISHED",
  "POSITION_CROSS_MARGIN","POSITION_IN_LIQUIDATION","POSITION_IN_CLOSE","POSITION_EMPTY",
  "REMOVE_TOO_MUCH","RISK_LIMIT_NOT_MULTIPLE","RISK_LIMIT_TOO_HIGH","RISK_LIMIT_TOO_LOW",
  "PRICE_TOO_DEVIATED","SIZE_TOO_LARGE","SIZE_TOO_SMALL","PRICE_OVER_LIQUIDATION",
  "PRICE_OVER_BANKRUPT","ORDER_POC_IMMEDIATE","INCREASE_POSITION","CONTRACT_IN_DELISTING",
  "POSITION_NOT_FOUND","POSITION_DUAL_MODE","ORDER_PENDING","POSITION_HOLDING","REDUCE_EXCEEDED",
  "NO_CHANGE","AMEND_WITH_STOP","ORDER_FOK"]

def isDefinitiveCommandRejection (err:NativeError):Bool:=
 match err.as? Fault.gate? with
 | none=>false
 | some api=>
  if api.label="" then false
  else if api.statusCode<400∨500≤api.statusCode then false
  else if api.statusCode=408∨api.statusCode=425∨api.statusCode=429 then false
  else definitiveLabels.contains (GoText.toUpper api.label)

def failure (client:ClientMeta) (operation:String) (kind:ErrorKind) (code safeMessage:String):
 NativeError:=
 newError kind {venue:=client.venue,product:=client.product,operation,code,safeMessage}

def gateMalformed (client:ClientMeta) (operation message:String):NativeError:=
 failure client operation .malformedResponse "" message

def statusKind (status:Int):ErrorKind:=
 if status=401 then .authentication
 else if status=403 then .permission
 else if status=404 then .notFound
 else if status=429 then .rateLimit
 else .venueRejected

def mappedErr (client:ClientMeta) (operation:String) (err:NativeError):NativeError:=
 if isError .contextCanceled err then failure client operation .canceled "" "operation canceled"
 else if isError .contextDeadlineExceeded err then
  failure client operation .deadlineExceeded "" "operation deadline exceeded"
 else match err.as? Fault.exchange?,err.as? Fault.gate? with
  | some _,_=>withExchangeOperation err operation
  | none,some api=>failure client operation (statusKind api.statusCode) api.label "gate request failed"
  | none,none=>failure client operation .transport "" "gate transport failed"

def gateNormalizeErr (client:ClientMeta) (operation:String) (err:NativeError):Option NativeError:=
 normalizeHttpError (some (mappedErr client operation err)) err client.venue client.product operation

def gateCommandMetadataMismatch (err:NativeError):Bool:=
 GoText.contains (errorText err) "returned mismatched currency pair" ||
  GoText.contains (errorText err) "returned mismatched contract"

def commandFailure (client:ClientMeta) (operation:OrderOperation) (instrument:Instrument)
 (orderId clientId:String) (err:NativeError):OrderAcknowledgement×Option NativeError:=
 let ack : OrderAcknowledgement:=
  { venue:=client.venue,product:=client.product,operation,state:=.ambiguous
    nativeSymbol:=instrument.identity.nativeSymbol
    nativeId:=instrument.identity.nativeId
    orderId,clientOrderId:=clientId}
 if gateCommandMetadataMismatch err then
  (ack,some (client.catalogMetadataResolution operation.text
   "gate command response identity does not match requested instrument"))
 else if isDefinitiveCommandRejection err then
  ({ack with state:=.rejected,venueMessage:="gate rejected command" },
   gateNormalizeErr client operation.text err)
 else
  (ack,some (failure client operation.text .ambiguousOutcome "" "gate command outcome is ambiguous"))

def gateCommandErr (client:ClientMeta) (operation:OrderOperation) (instrument:Instrument)
 (orderId clientId:String) (err:NativeError):OrderAcknowledgement×Option NativeError:=
 let (ack,mapped):=commandFailure client operation instrument orderId clientId err
 normalizeHttpCommand ack mapped err client.venue client.product operation.text

end BolterTrader.Adapters.Gate
