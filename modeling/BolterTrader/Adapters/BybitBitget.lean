import BolterTrader.Gateway.Classify

/-! Bybit and Bitget placements (`sdk/bybit/errors.go`, `sdk/bitget/errors.go`,
`bybit_bitget.go`). -/
namespace BolterTrader.Adapters
open Foundations Exchange Gateway List
set_option maxRecDepth 4000

/-! ## The allow-lists of the SDKs -/

namespace Bybit

def ambiguousCodes:List Int:=
 [-1,429,10000,10006,10016,10018,10019,10429,30035,40004,110079,110114,170001,170005,
  170007,170019,170032,170035,170146,170147,170191,170212,170222,170234,170310,3400214]

def definitiveCodes:List Int:=
 [-2015,33004,10001,10002,10003,10004,10005,10007,10008,10009,10010,10014,10017,10024,
  10027,10028,10029,100028,30133,30134,30135,30136,30208,30209,30228,110001,110003,110004,
  110005,110006,110007,110008,110009,110010,110011,110012,110013,110014,110015,110017,
  110018,110019,110020,110021,110022,110023,110024,110025,110026,110027,110028,110029,
  110031,110032,110033,110034,110035,110036,110037,110038,110039,110040,110041,110042,
  110043,110044,110045,110046,110047,110048,110049,110050,110051,110052,110053,110054,
  110055,110056,110057,110058,110059,110060,110061,110062,110063,110064,110065,110066,
  110067,110068,110069,110070,110071,110072,110073,110074,110076,110077,110078,110080,
  110082,110083,110085,110086,110087,110088,110089,110090,110092,110093,110094,110095,
  110096,110097,110098,110099,110100,110101,110102,110103,110104,110105,110106,110107,
  110108,110109,110110,110111,110112,110113,110115,110116,110117,110118,110119,110120,
  110121,110123,110124,110125,110132,110135,110136,110137,170010,170011,170031,170033,
  170034,170036,170037,170105,170115,170116,170117,170121,170124,170130,170131,170132,
  170133,170134,170136,170137,170139,170140,170141,170142,170143,170144,170145,170148,
  170149,170150,170151,170157,170159,170190,170192,170193,170194,170195,170196,170197,
  170198,170199,170200,170201,170202,170203,170204,170206,170207,170209,170210,170213,
  170215,170216,170217,170218,170219,170220,170221,170223,170224,170226,170227,170228,
  170229,170230,170241,170311,170312,170313,170341,170344,170346,170348,170355,170358,
  170359,170360,170371,170372,170381,170382,170709,170810]

def isDefinitiveCommandRejection (err:NativeError):Bool:=
 if transientResponse err then false
 else match err.as? Fault.bybit? with
  | none=>false
  | some response=>
   if response.code=0 then false
   else if ambiguousCodes.contains response.code then false
   else definitiveCodes.contains response.code

end Bybit

namespace Bitget

def ambiguousCodes:List String:=
 ["25000","25001","25003","25004","25102","25103","25106","25209","25239","25567","25572",
  "25653","40010","40015","40200","40725","40808","429","42900","45001","50000"]

def definitiveCodes:List String:=
 ["25002","25005","25006","25007","25008","25009","25010","25011","25012","25100","25101",
  "25104","25105","25107","25108","25200","25201","25202","25203","25204","25205","25206",
  "25207","25208","25210","25211","25212","25213","25214","25215","25216","25217","25218",
  "25219","25221","25222","25223","25224","25225","25226","25227","25228","25229","25230",
  "25231","25232","25233","25234","25235","25236","25237","25238","25240","25241","25242",
  "25243","25244","25245","25568","25569","25570","25571","25573","25574","25620","25654",
  "25655","40000","40001","40002","40003","40005","40006","40007","40008","40009","40011",
  "40012","40013","40014","40016","40017","40018","40019","40020","40034","40042","40100",
  "40101","40102","40103","40104","40105","40109","40110","40111","40199","40301","40303",
  "40304","40305","40306","40309","40402","40404","40407","40408","40409","40704","40705",
  "40706","40707","40710","40714","40715","40716","40717","40718","40719","40720","40721",
  "40722","40723","40724","40730","40732","40734","40744","40746","40931","41101","41117",
  "41118","42072","43001","43002","43003","43004","43005","43006","43007","43008","43009",
  "43010","43012","43022","43027","43028","43112","43118","95005","95006","95007","95008"]

def isDefinitiveCommandRejection (err:NativeError):Bool:=
 if transientResponse err then false
 else match err.as? Fault.bitget? with
  | none=>false
  | some response=>
   let code:=GoText.trimSpace response.code
   if code=""∨code="00000" then false
   else if ambiguousCodes.contains code then false
   else definitiveCodes.contains code

end Bitget

/-! ## The adapter -/

def authenticationCodes:List String:=
 ["401","-2015","33004","10003","10004","10007",
  "40001","40002","40003","40005","40006","40009","40011","40012"]

def permissionCodes:List String:=["10005","10009","10010","40014","40018","40301"]
def rateLimitCodes:List String:=["10006","429","42900"]
def invalidRequestCodes:List String:=["10001","40017"]

def classifyCode (code:String):ErrorKind:=
 if authenticationCodes.contains code then .authentication
 else if permissionCodes.contains code then .permission
 else if rateLimitCodes.contains code then .rateLimit
 else if invalidRequestCodes.contains code then .invalidRequest
 else .venueRejected

def safeVenueFailure (venue:Venue):String:=
 if venue=.unset then "venue rejected request" else venue.text ++ " rejected request"

def responseCode? (err:NativeError):Option String:=
 match err.as? Fault.bybit? with
 | some response=>some (GoText.itoa response.code)
 | none=>(err.as? Fault.bitget?).map (·.code)

def responseError (client:ClientMeta) (operation:String) (err:NativeError):Exchange.Error:=
 let details : ErrorDetails:={venue:=client.venue,product:=client.product,operation}
 if isError .contextCanceled err then
  ⟨.canceled,{details with safeMessage:="request context ended" }⟩
 else if isError .contextDeadlineExceeded err then
  ⟨.deadlineExceeded,{details with safeMessage:="request context ended" }⟩
 else match responseCode? err with
  | some code=>⟨classifyCode code,{details with code,safeMessage:=safeVenueFailure client.venue}⟩
  | none=>⟨.transport,{details with safeMessage:="transport failure" }⟩

def normErr (client:ClientMeta) (operation:String) (err:NativeError):Option NativeError:=
 normalizeHttpError (some (.leaf (.exchange (responseError client operation err)))) err
  client.venue client.product operation

def malformed (client:ClientMeta) (operation message:String):NativeError:=
 newError .malformedResponse
  {venue:=client.venue,product:=client.product,operation,safeMessage:=message}

def baseAck (client:ClientMeta) (operation:OrderOperation) (nativeSymbol orderId clientId:String):
 OrderAcknowledgement:=
 { venue:=client.venue,product:=client.product,operation,state:=.acceptedPending
   nativeSymbol,orderId,clientOrderId:=clientId}

def commandAck (client:ClientMeta) (operation:String) (kind:OrderOperation)
 (instrument orderId clientId:String) (err:NativeError):
 OrderAcknowledgement×Option NativeError:=
 let ack:={baseAck client kind instrument orderId clientId with state:=.ambiguous}
 if Bybit.isDefinitiveCommandRejection err || Bitget.isDefinitiveCommandRejection err then
  let bybitCode:=((err.as? Fault.bybit?).map fun e=>GoText.itoa e.code).getD ""
  let code:=((err.as? Fault.bitget?).map (·.code)).getD bybitCode
  let ack:={ack with
   state:=.rejected
   venueMessage:=client.venue.text ++ " rejected order command"
   venueCode:=code}
  normalizeHttpCommand ack none err client.venue client.product operation
 else
  normalizeHttpCommand ack (normErr client operation err) err client.venue client.product operation

def isOrderActionMalformed (err:NativeError):Bool:=
 let message:=errorText err
 GoText.contains message "returned a partial response" ||
 GoText.contains message "returned mismatched order id" ||
 GoText.contains message "returned mismatched order link id" ||
 GoText.contains message "returned mismatched client order id"

def placeFailure (client:ClientMeta) (native clientId:String) (err:NativeError):
 OrderAcknowledgement×Option NativeError:=
 if isOrderActionMalformed err then ({},some (malformed client "PlaceOrder" (errorText err)))
 else commandAck client "PlaceOrder" .place native "" clientId err

/-! ## What the gateway reports for a failed placement -/

def commandAckVerdict (client:ClientMeta) (instrument clientId:String) (err:NativeError)
 (id:String) (request:PlaceOrderRequest) (now:Int):PlaceStatus:=
 let (ack,mapped):=commandAck client "PlaceOrder" .place instrument "" clientId err
 (classify id request ack mapped now).status

theorem refusedCommand_placeOrder (action:String):
 refusedCommand action "PlaceOrder" = (action == "place"):=by
 have hop:GoText.toLower (GoText.removeRune '_' "PlaceOrder")="placeorder" := by decide
 simp[refusedCommand,hop]

theorem commandAckVerdict_eq (client:ClientMeta) (instrument clientId:String) (err:NativeError)
 (id:String) (request:PlaceOrderRequest) (now:Int)
 (hbyb:Bybit.isDefinitiveCommandRejection err=false)
 (hbit:Bitget.isDefinitiveCommandRejection err=false):
 commandAckVerdict client instrument clientId err id request now =
  (mappedVerdict id request now {baseAck client .place instrument "" clientId with state:=.ambiguous}
   (responseError client "PlaceOrder" err) err client.venue client.product "PlaceOrder").status:=by
 simp only[commandAckVerdict,commandAck,hbyb,hbit,Bool.or_self,Bool.false_eq_true,if_false,
  normErr,mappedVerdict,commandVerdict]

def chainStatus (err:NativeError):Int:=recordedStatus err 0

def LeftOpen (err:NativeError):Prop:=
 transientResponse err=true∨
 (isError .rateLimited err=true∧chainStatus err≠0)∨
 (isError .rateLimited err=false∧
  (decodingFailed err=true∨isError .contextCanceled err=true∨
   isError .contextDeadlineExceeded err=true∨
   ∀ code,responseCode? err=some code → code∈rateLimitCodes++invalidRequestCodes∧chainStatus err≠0))

theorem responseError_evidence (client:ClientMeta) (operation:String) (err:NativeError):
 evidence (responseError client operation err) = {kind:=(responseError client operation err).kind}:=by
 unfold responseError
 split_ifs
 · rfl
 · rfl
 · cases responseCode? err<;>rfl

theorem classifyCode_ne_ambiguous (code:String):classifyCode code≠.ambiguousOutcome:=by
 unfold classifyCode
 split_ifs<;>decide

theorem responseError_kind_ne_ambiguous (client:ClientMeta) (operation:String) (err:NativeError):
 (responseError client operation err).kind≠.ambiguousOutcome:=by
 unfold responseError
 split_ifs
 · simp
 · simp
 · cases responseCode? err with
   | none=>simp
   | some code=>exact classifyCode_ne_ambiguous code

theorem rejects_classifyCode (code:String) (status:Int):
 rejects .ambiguous ⟨classifyCode code,status,false⟩=false ↔
  code∈rateLimitCodes++invalidRequestCodes∧status≠0:=by
 have hlis:∀ c∈rateLimitCodes++invalidRequestCodes,
  authenticationCodes.contains c=false∧permissionCodes.contains c=false:=by decide
 by_cases hmem:code∈rateLimitCodes++invalidRequestCodes
 · obtain ⟨hauth,hperm⟩:=hlis code hmem
   have hcas:code∈rateLimitCodes∨code∈invalidRequestCodes:=mem_append.mp hmem
   have hkind:classifyCode code=.rateLimit∨classifyCode code=.invalidRequest:=by
    unfold classifyCode
    grind
   grind [rejects]
 · have hr:code∉rateLimitCodes:=fun h=>hmem (mem_append_left _ h)
   have hi:code∉invalidRequestCodes:=fun h=>hmem (mem_append_right _ h)
   have hkind:classifyCode code=.authentication∨classifyCode code=.permission∨
     classifyCode code=.venueRejected:=by
    unfold classifyCode
    split_ifs<;>simp_all
   grind [rejects]

theorem rejects_responseError (client:ClientMeta) (operation:String) (err:NativeError) (status:Int):
 rejects .ambiguous ⟨(responseError client operation err).kind,status,false⟩=false ↔
  (isError .contextCanceled err=true∨isError .contextDeadlineExceeded err=true∨
   ∀ code,responseCode? err=some code → code∈rateLimitCodes++invalidRequestCodes∧status≠0):=by
 unfold responseError
 by_cases hc:isError .contextCanceled err=true
 · simp[hc,rejects]
 by_cases hd:isError .contextDeadlineExceeded err=true
 · simp[hc,hd,rejects]
 cases hcode : responseCode? err with
 | none=>simp[hc,hd,rejects]
 | some code=>
  simp only[hc,hd,Bool.false_eq_true,if_false,false_or,rejects_classifyCode,Option.some.injEq]
  grind

/-- Which errors of a placement are not reported as rejections. -/
theorem commandAck_not_rejected_iff (client:ClientMeta) (instrument clientId:String) (err:NativeError)
 (id:String) (request:PlaceOrderRequest) (now:Int)
 (hbybit:Bybit.isDefinitiveCommandRejection err=false)
 (hbitget:Bitget.isDefinitiveCommandRejection err=false)
 (hlocal:∀ refusal,err.as? Fault.localRateLimit?=some refusal→ refusal.action≠"place"):
 commandAckVerdict client instrument clientId err id request now≠.rejected ↔ LeftOpen err:=by
 have hsent:∀ refusal,err.as? Fault.localRateLimit?=some refusal →
   refusedCommand refusal.action "PlaceOrder" = false:=by
  intro refusal hr
  rw[refusedCommand_placeOrder]
  simpa using hlocal refusal hr
 rw[commandAckVerdict_eq client instrument clientId err id request now hbybit hbitget]
 cases ht : transientResponse err with
 | true=>
  -- the shared normalizer has overridden the adapter's mapping
  rw[mappedVerdict,commandVerdict_transient id request now _ _ ht client.venue client.product "PlaceOrder" hsent]
  simp[LeftOpen,ht]
 | false=>
  simp only[LeftOpen,ht,Bool.false_eq_true,false_or]
  cases hr : err.as? Fault.localRateLimit? with
  | some refusal=>
   have hlim:=isError_rateLimited_of_refusal hr
   rw[mappedVerdict_refused id request now _ (responseError_evidence client "PlaceOrder" err) hr ht,
    ne_eq,verdict_rejected_iff,rejects_rateLimit,hsent refusal hr]
   simp[hlim,chainStatus]
  | none=>
   rw[mappedVerdict_quiet id request now _ (responseError_evidence client "PlaceOrder" err) hr ht,
    ne_eq,verdict_rejected_iff,Bool.not_eq_true]
   have hkind:(responseError client "PlaceOrder" err).kind≠.ambiguousOutcome:=
    responseError_kind_ne_ambiguous client "PlaceOrder" err
   cases hlim : isError .rateLimited err with
   | true=>
    rw[quietKind_limited hlim hkind,←Bool.not_eq_true,rejects_rateLimit]
    simp[chainStatus]
   | false=>
    cases hdec : decodingFailed err with
    | true=>simp[quietKind,hlim,hdec,unlessAmbiguous,hkind,rejects]
    | false=>
     simp only[quietKind_self hlim hdec,rejects_responseError,Bool.false_eq_true,false_and,
      true_and,false_or]
     rfl

theorem commandAck_not_rejected_throttled :
 commandAckVerdict ⟨.bybit,.perp⟩ "BTCUSDT" "7"
  (.wrap (.http {statusCode:=200}) (.leaf (.bybit {code:=10006}))) "bybit:perp:BTC-USDT" {} 0 ≠
   .rejected ↔
 LeftOpen (.wrap (.http {statusCode:=200}) (.leaf (.bybit {code:=10006}))):=
 commandAck_not_rejected_iff ⟨.bybit,.perp⟩ "BTCUSDT" "7"
  (.wrap (.http {statusCode:=200}) (.leaf (.bybit {code:=10006}))) "bybit:perp:BTC-USDT" {} 0
  (by decide) (by decide) (by intro refusal h; cases h)

theorem backend_failure_rejected :
 Bybit.isDefinitiveCommandRejection
   (.wrap (.http {statusCode:=200}) (.leaf (.bybit {code:=10016})))=false∧
  Bitget.isDefinitiveCommandRejection
   (.wrap (.http {statusCode:=200}) (.leaf (.bybit {code:=10016})))=false∧
  ErrorTree.as? Fault.localRateLimit?
   (.wrap (.http {statusCode:=200}) (.leaf (.bybit {code:=10016})))=none∧
  commandAckVerdict ⟨.bybit,.perp⟩ "BTCUSDT" "7"
   (.wrap (.http {statusCode:=200}) (.leaf (.bybit {code:=10016}))) "bybit:perp:BTC-USDT" {} 0 =
    .rejected:=by
 decide

end BolterTrader.Adapters
