import BolterTrader.Gateway.Api

/-! The trading client's submission of one order (`web/src/api/client.ts`,
`web/src/features/submit.ts`): one placement, and up to three lookups by client
order id when the placement left the outcome open. -/
namespace BolterTrader.Web
open Foundations Gateway List

/-! ## The API client -/

structure ApiError where
 status:ℕ
 code:String
 message:String
 venueCode:Option String:=none
 category:Option Category:=none
 retryable:Bool:=false

inductive Thrown where
 | api (err:ApiError)
 | network (message:String)

def Thrown.status?:Thrown→Option ℕ
 | .api err=>some err.status
 | .network _=>none

def Thrown.message:Thrown→String
 | .api err=>err.message
 | .network message=>message

abbrev Reply (α:Type):=Except Thrown (Option α)

inductive Fetched (α:Type) where
 | failed (message:String)
 | responded (response:Response α) (statusText:String)

def apiError {α:Type} (response:Response α) (statusText:String):ApiError:=
 match response.body with
 | .error err=>
  { status:=response.status,code:=err.code,message:=err.message,venueCode:=err.venueCode,
    category:=err.category,retryable:=err.retryable}
 | .value _ | .unreadable=>
  {status:=response.status,code:="HTTP_" ++ toString response.status,message:=statusText}

def request {α:Type} (placement:Bool):Fetched α→Reply α
 | .failed message=>.error (.network message)
 | .responded response statusText=>
  if response.status=204 then .ok none
  else if 200≤response.status∧response.status≤299 then
   match response.body with
   | .value payload=>.ok (some payload)
   | .error _ | .unreadable=>.ok none
  else
   match placement,response.body with
   | true,.value payload=>.ok (some payload)
   | _,_=>.error (.api (apiError response statusText))

theorem apiError_status {α:Type} (rsp:Response α) (ste:String):
 (apiError rsp ste).status=rsp.status:=by
 unfold apiError
 split<;>rfl

theorem request_cases {α:Type} (place:Bool) (rsp:Response α) (ste:String):
 request place (.responded rsp ste)=.ok none∨
 (∃ pld,rsp.body=.value pld∧
  request place (.responded rsp ste)=.ok (some pld))∨
 request place (.responded rsp ste)=.error (.api (apiError rsp ste)):=by
 simp only[request]
 grind

/-! ## The submission -/

inductive Outcome where
 | accepted (order:OrderRow)
 | rejected (message:String)
 | unknown (message:String)

def firstNonEmpty (texts:List String) (default:String):String:=(texts.find? (· ≠ "")).getD default

def rejectionText (result:PlaceResult):String:=
 let text:=firstNonEmpty [result.message,result.venueMessage] "Order rejected"
 if result.venueCode≠""∧GoText.contains text result.venueCode=false then
  text ++ " (" ++ result.venueCode ++ ")"
 else text

def placeOutcome:Reply PlaceResult→Option Outcome
 | .error thrown=>
  match thrown.status? with
  | some status=>if 400≤ status∧status<500 then some (.rejected thrown.message) else none
  | none=>none
 | .ok none=>none
 | .ok (some result)=>
  match result.status,result.order with
  | .accepted,some order=>some (.accepted order)
  | .rejected,_=>some (.rejected (rejectionText result))
  | _,_=>none

def lookupOutcome:Reply LookupResult→Option Outcome
 | .error _=>none
 | .ok none=>none
 | .ok (some result)=>
  match result.status,result.order with
  | .found,some order=>some (.accepted order)
  | .notFound,_=>some (.rejected "Order was not placed")
  | _,_=>none

def unknownOutcome (clientOrderId:String):Outcome:=
 .unknown ("Outcome unknown — check open orders before retrying (client id " ++ clientOrderId ++ ")")

def delays:List ℕ:=[500,1500,3000]

def resolveUnknown (clientOrderId:String):List ℕ→List (Reply LookupResult)→Option Outcome
 | [],_=>some (unknownOutcome clientOrderId)
 | _::_,[]=>none
 | _::later,reply::replies=>
  match lookupOutcome reply with
  | some outcome=>some outcome
  | none=>resolveUnknown clientOrderId later replies

def submitOrder (clientOrderId:String) (place:Reply PlaceResult) (lookups:List (Reply LookupResult)):
 Option Outcome:=
 match placeOutcome place with
 | some outcome=>some outcome
 | none=>resolveUnknown clientOrderId delays lookups

/-! ## When the client says "rejected" -/

section
variable {id message:String}

theorem placeOutcome_rejected {reply:Reply PlaceResult} (h:placeOutcome reply=some (.rejected message)):
 (∃ err,reply=.error (.api err)∧400≤err.status∧err.status<500)∨
  ∃ res,reply=.ok (some res)∧res.status=.rejected:=by
 cases reply with
 | error thr=>
  cases thr with
  | network=>cases h
  | api err=>
   refine .inl ⟨err,rfl,?_⟩
   grind [placeOutcome,Thrown.status?]
 | ok ans=>
  cases ans with
  | none=>cases h
  | some res=>
   grind [placeOutcome]

theorem lookupOutcome_rejected {reply:Reply LookupResult} (h:lookupOutcome reply=some (.rejected message)):
 ∃ res,reply=.ok (some res)∧res.status=.notFound:=by
 match reply,h with
 | .ok (some res),h=>
  grind [lookupOutcome]

theorem resolveUnknown_rejected {pss:List ℕ} {reply:List (Reply LookupResult)}
 (h:resolveUnknown id pss reply=some (.rejected message)):
 ∃ rpl1∈reply,lookupOutcome rpl1=some (.rejected message):=by
 induction pss generalizing reply with
 | nil=>cases h
 | cons pau lat ih=>
  cases reply with
  | nil=>cases h
  | cons rpl1=>
   grind [resolveUnknown,lookupOutcome,mem_cons_self,mem_cons_of_mem]

theorem submitOrder_rejected {place:Reply PlaceResult} {lkp:List (Reply LookupResult)}
 (h:submitOrder id place lkp=some (.rejected message)):
 placeOutcome place=some (.rejected message)∨
  ∃ reply∈lkp,lookupOutcome reply=some (.rejected message):=by
 grind [submitOrder,placeOutcome,resolveUnknown_rejected]

end

end BolterTrader.Web
