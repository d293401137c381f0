import BolterTrader.Adapters.Lighter
import BolterTrader.Foundations.Transition

/-! The nonces of Lighter transactions (`GetNextNonce` in `sdk/lighter/account.go`,
`InvalidateNonce` in `sdk/lighter/client.go`, the command gate and the tracked
transport of `lighter_rest.go` and `lighter.go`), next to a venue that accepts
exactly its next expected nonce. -/
namespace BolterTrader.Adapters.Lighter
open Foundations Transition Exchange List

def maxInt64:Int:=2^63-1

structure NonceCache where
 nonce:Int:=0
 init:Bool:=false

structure NextNonce where
 status:Int:=200
 code:Int
 nonce:Option Int

structure FetchFailure where
 status:Int:=0
 err:NativeError

def malformedNonce (text:String):NativeError:=
 .wrap (.message ("malformed response: " ++ text)) (.leaf (.sentinel .lighterMalformedResponse))

def getNextNonce (cache:NonceCache) (fetch:Except FetchFailure NextNonce):NonceCache×Except NativeError Int:=
 if cache.init then
  if cache.nonce=maxInt64 then ({cache with init:=false},.error (malformedNonce "next-nonce cache exhausted"))
  else ({cache with nonce:=cache.nonce+1},.ok cache.nonce)
 else
  match fetch with
  | .error failure=>(cache,.error failure.err)
  | .ok answer=>
   if answer.code≠200 then (cache,.error (malformedNonce "invalid next-nonce response code"))
   else
    match answer.nonce with
    | none=>(cache,.error (malformedNonce "invalid next-nonce field"))
    | some nonce=>
     if nonce<0∨nonce=maxInt64 then (cache,.error (malformedNonce "invalid next-nonce field"))
     else ({nonce:=nonce+1,init:=true},.ok nonce)

def fetchedStatus (cache:NonceCache) (fetch:Except FetchFailure NextNonce):Int:=
 if cache.init then 0
 else
  match fetch with
  | .error failure=>failure.status
  | .ok answer=>answer.status

inductive SendOutcome where
 | unbuilt (err:NativeError)
 | unsent (err:NativeError)
 | refused (status:Int) (err:NativeError)
 | lost (status:Int) (err:NativeError)
 | answered (code:Int) (txHash:String)

def SendOutcome.sent:SendOutcome→Bool
 | .unbuilt _=>false
 | .unsent _=>false
 | _=>true

structure Command where
 product:Product
 op:OrderOperation
 instrument:Instrument
 orderId:String:=""
 clientOrderId:String:=""
 orderType:Exchange.OrderType:=.unset

def Command.failed (command:Command) (err:NativeError) (tracker:SendTracker):CommandResult:=
 lighterCommandErr command.product command.op command.instrument command.orderId command.clientOrderId err true
  (some tracker)

def Command.placed (command:Command) (result:CommandResult):CommandResult:=
 let ack:={result.ack with orderType:=command.orderType}
 match result.err with
 | some _=>{result with ack}
 | none=>{result with ack,err:=ack.validate.map fun invalid=>.leaf (.exchange invalid)}

def Command.result (command:Command) (status:Int):SendOutcome→ CommandResult
 | .unbuilt err=>command.failed err {began:=false,status}
 | .unsent err=>command.failed err {began:=true,status}
 | .refused status err=>command.failed err {began:=true,status}
 | .lost status err=>command.failed err {began:=true,status}
 | .answered code txHash=>
  let result:=lighterCommandAck command.product (lighterCommandOperation command.op) command.op command.instrument
   command.orderId command.clientOrderId code txHash true
  if command.op=.place then command.placed result else result

def NonceCache.after (cache:NonceCache) (result:CommandResult):NonceCache:=
 if result.nonceInvalidated then {cache with init:=false} else cache

inductive Gate where
 | free
 | entered (command:Command)
 | numbered (command:Command) (nonce status:Int)

def Gate.isNumbered:Gate→Bool
 | .numbered _ _ _=>true
 | _=>false

structure Receipt where
 nonce:Int
 expected:Int

structure Session where
 cache:NonceCache:={}
 gate:Gate:=.free
 expected:Int
 received:List Receipt:=[]
 results:List CommandResult:=[]

inductive Event where
 | enter (command:Command) (ended:Option NativeError)
 | number (fetch:Except FetchFailure NextNonce)
 | finish (outcome:SendOutcome) (taken:Bool)

def Session.answer (s:Session) (cache:NonceCache) (result:CommandResult):Session:=
 {s with cache:=cache.after result,gate:=.free,results:=s.results++[result]}

def Session.turnAway (s:Session) (command:Command) (err:NativeError):Session:=
 {s with results:=s.results ++
  [{err:=some (lighterContextErr command.product (lighterCommandOperation command.op) err)}]}

def Session.Tells (s:Session):Except FetchFailure NextNonce→Prop
 | .error _=>True
 | .ok answer=>∀ nonce∈answer.nonce,nonce=s.expected

instance Session.Tells.decidable (s:Session):∀ fetch,Decidable (s.Tells fetch)
 | .error _=>.isTrue trivial
 | .ok answer=>inferInstanceAs (Decidable (∀ nonce∈answer.nonce,nonce=s.expected))

def Session.number (s:Session) (command:Command) (fetch:Except FetchFailure NextNonce):Session:=
 let status:=fetchedStatus s.cache fetch
 match getNextNonce s.cache fetch with
 | (cache,.ok nonce)=>{s with cache,gate:=.numbered command nonce status}
 | (cache,.error err)=>s.answer cache (command.failed err {began:=false,status})

def Session.receive (s:Session) (nonce:Int) (outcome:SendOutcome) (taken:Bool):Session:=
 {s with
   expected:=if taken then s.expected+1 else s.expected
   received:=s.received++if outcome.sent then [{nonce,expected:=s.expected}] else []}

def Session.finish (s:Session) (command:Command) (nonce status:Int) (outcome:SendOutcome) (taken:Bool):
 Session:=
 (s.receive nonce outcome taken).answer s.cache (command.result status outcome)

def step (s:Session):Event→Option Session
 | .enter command (some err)=>some (s.turnAway command err)
 | .enter command none=>
  match s.gate with
  | .free=>some {s with gate:=.entered command}
  | _=>none
 | .number fetch=>
  match s.gate with
  | .entered command=>if s.Tells fetch then some (s.number command fetch) else none
  | _=>none
 | .finish outcome taken=>
  match s.gate with
  | .numbered command nonce status=>
   -- only what was sent with the expected nonce can be taken
   if taken=true→ outcome.sent=true∧nonce=s.expected then some (s.finish command nonce status outcome taken)
   else none
  | _=>none

/-! ## Commands whose outcome is definite -/

def contextEnded (err:NativeError):Bool:=isError .contextCanceled err || isError .contextDeadlineExceeded err

def SendOutcome.Definite (taken:Bool):SendOutcome→Prop
 | .unbuilt _=>True
 | .unsent _=>True
 | .refused status err=>400≤ status∧status<500∧contextEnded err=false∧taken=false
 | .lost _ _=>False
 | .answered code txHash=>
  code=200∧GoText.trimSpace txHash≠""∧taken=true∨0<code∧code<500∧code≠200∧taken=false

def Event.Definite:Event→Prop
 | .finish outcome taken=>outcome.Definite taken
 | _=>True

def Event.Sends:Event→Prop
 | .finish outcome _=>outcome.sent=true
 | _=>True

instance SendOutcome.Definite.decidable (taken:Bool):∀ outcome,Decidable (SendOutcome.Definite taken outcome)
 | .unbuilt _ | .unsent _=>.isTrue trivial
 | .refused status err=>
  inferInstanceAs (Decidable (400≤ status∧status<500∧contextEnded err=false∧taken=false))
 | .lost _ _=>.isFalse id
 | .answered code txHash=>
  inferInstanceAs (Decidable (code=200∧GoText.trimSpace txHash≠""∧taken=true∨
   0<code∧code<500∧code≠200∧taken=false))

instance Event.Definite.decidable : ∀ event,Decidable (Event.Definite event)
 | .finish outcome taken=>inferInstanceAs (Decidable (outcome.Definite taken))
 | .enter _ _ | .number _=>.isTrue trivial

instance Event.Sends.decidable : ∀ event,Decidable (Event.Sends event)
 | .finish outcome _=>inferInstanceAs (Decidable (outcome.sent=true))
 | .enter _ _ | .number _=>.isTrue trivial

theorem Command.result_answered (command:Command) (status code:Int) (txHash:String):
 (command.result status (.answered code txHash)).nonceInvalidated =
  (lighterCommandAck command.product (lighterCommandOperation command.op) command.op command.instrument
   command.orderId command.clientOrderId code txHash true).nonceInvalidated:=by
 grind [Command.result,Command.placed]

theorem Command.result_nonceInvalidated (command:Command) (status:Int) {outcome:SendOutcome} {taken:Bool}
 (hdef:outcome.Definite taken) (hsent:outcome.sent=true):
 (command.result status outcome).nonceInvalidated = !taken:=by
 cases outcome with
 | unbuilt | unsent=>cases hsent
 | refused=>
  obtain ⟨hlow,hhigh,hcon,rfl⟩:=hdef
  exact lighterCommandErr_invalidates command.product command.op command.instrument command.orderId
   command.clientOrderId rfl hlow hhigh hcon
 | lost=>cases hdef
 | answered code txHash=>
  rw[Command.result_answered]
  rcases hdef with ⟨rfl,hhash,rfl⟩ | ⟨hpos,hhigh,hne,rfl⟩
  all_goals grind [lighterCommandAck_accepted,lighterCommandAck_invalidates]

/-! ## What reaches the venue -/

structure Session.Aligned (s:Session):Prop where
 cached:s.gate.isNumbered=false→ s.cache.init=true→ s.cache.nonce=s.expected
 numbered:∀ command nonce status,s.gate=.numbered command nonce status →
  nonce=s.expected∧s.cache = {nonce:=s.expected+1,init:=true}

theorem Session.Aligned.of_cached {s:Session} (hgate:s.gate.isNumbered=false)
 (hcach:s.cache.init=true→ s.cache.nonce=s.expected):s.Aligned:=by
 refine ⟨fun _=>hcach,fun command nonce status hnum=>?_⟩
 rw[hnum] at hgate
 cases hgate

theorem getNextNonce_spec {cache cache':NonceCache} {fetch:Except FetchFailure NextNonce}
 {result:Except NativeError Int} (h:getNextNonce cache fetch=(cache',result)):
 (∃ err,result=.error err∧cache'.init=false)∨
  ∃ nonce,result=.ok nonce∧cache' = {nonce:=nonce+1,init:=true}∧
   (cache.init=true∧cache.nonce=nonce∨∃ answer,fetch=.ok answer∧answer.nonce=some nonce):=by
 unfold getNextNonce at h
 split at h
 next hinit=>
  grind
 grind

theorem NonceCache.after_init (cache:NonceCache) (result:CommandResult):
 (cache.after result).init=(cache.init && !result.nonceInvalidated):=by
 grind [NonceCache.after]

section
variable {s s':Session} {command:Command}

theorem Session.Aligned.number (h:s.Aligned) (hgate:s.gate=.entered command)
 {fetch:Except FetchFailure NextNonce} (htel:s.Tells fetch):(s.number command fetch).Aligned:=by
 have hcach:=h.cached (by rw[hgate]; rfl)
 rw[Session.number]
 split
 next cache nonce hnext=>
  obtain ⟨err,herr,-⟩ | ⟨nonce,hok,hcac,hfrom⟩:=getNextNonce_spec hnext
  · cases herr
  cases hok
  have hn:nonce=s.expected:=by
   rcases hfrom with ⟨hinit,rfl⟩ | ⟨answer,rfl,hv⟩
   · exact hcach hinit
   · exact htel nonce hv
  refine ⟨fun hfree=>?_,fun command' nonce' status' hnum=>?_⟩
  · cases hfree
  · grind
 next cache err hnext=>
  obtain ⟨err,-,hnil⟩ | ⟨nonce,hok,-⟩:=getNextNonce_spec hnext
  · refine .of_cached rfl fun hinit=>?_
    rw[Session.answer,NonceCache.after_init,hnil] at hinit
    cases hinit
  · cases hok

theorem Session.Aligned.finish (h:s.Aligned) {nonce status:Int} (hgate:s.gate=.numbered command nonce status)
 {outcome:SendOutcome} {taken:Bool} (hdef:outcome.Definite taken) (hsent:outcome.sent=true):
 (s.finish command nonce status outcome taken).Aligned:=by
 have hcac:=(h.numbered command nonce status hgate).2
 have hdro:=command.result_nonceInvalidated status hdef hsent
 refine .of_cached rfl fun hinit=>?_
 change (s.cache.after (command.result status outcome)).init=true at hinit
 change (s.cache.after (command.result status outcome)).nonce=if taken then s.expected+1 else s.expected
 rw[NonceCache.after_init,hdro,hcac] at hinit
 have htak:taken=true:=by simpa using hinit
 rw[NonceCache.after,hdro,htak,hcac]
 rfl

theorem Session.Aligned.step {event:Event} (h:s.Aligned) (hdef:event.Definite) (hsen:event.Sends)
 (hstep:Lighter.step s event=some s'):
 s'.Aligned∧∃ more,s'.received=s.received++more∧∀ receipt∈more,receipt.nonce=receipt.expected:=by
 cases event with
 | enter command ended=>
  cases ended with
  | some=>
   cases hstep
   exact ⟨⟨h.cached,h.numbered⟩,[],(append_nil _).symm,nofun⟩
  | none=>
   simp only[Lighter.step] at hstep
   split at hstep
   next hgate=>
    cases hstep
    have hcach:=h.cached (by rw[hgate]; rfl)
    exact ⟨.of_cached rfl hcach,[],(append_nil _).symm,nofun⟩
   next=>cases hstep
 | number=>
  simp only[Lighter.step] at hstep
  split at hstep
  next command hgate=>
   obtain ⟨htel,heq⟩:=Option.ite_none_right_eq_some.mp hstep
   cases heq
   refine ⟨h.number hgate htel,[],?_,nofun⟩
   rw[Session.number,append_nil]
   split<;>rfl
  next=>cases hstep
 | finish outcome=>
  simp only[Lighter.step] at hstep
  split at hstep
  next command nonce status hgate=>
   obtain ⟨-,heq⟩:=Option.ite_none_right_eq_some.mp hstep
   cases heq
   have hsent:outcome.sent=true:=hsen
   have hn:=(h.numbered command nonce status hgate).1
   refine ⟨h.finish hgate hdef hsent,[{nonce,expected:=s.expected}],?_,fun receipt hrece=>?_⟩
   · change s.received++(if outcome.sent then _ else [])=_
     rw[if_pos hsent]
   all_goals grind
  next=>cases hstep

theorem Session.aligned_new (expected:Int):Session.Aligned {expected}:=
 .of_cached rfl fun hinit=>by cases hinit

/-- Every command is sent with the nonce the venue expects. -/
theorem sent_with_expected_nonce {expected:Int} {events:List Event}
 (hdefinite:∀ event∈events,event.Definite) (hsends:∀ event∈events,event.Sends)
 (hrun:run step {expected} events=some s):∀ receipt∈s.received,receipt.nonce=receipt.expected:=by
 have hok:Along step (fun _ event=>event.Definite∧event.Sends) {expected} events:=
  along_of_forall (fun event hev=>⟨hdefinite event hev,hsends event hev⟩) _
 have hinv:s.Aligned∧∀ receipt∈s.received,receipt.nonce=receipt.expected:=by
  refine invariant_along (fun s=>s.Aligned∧∀ receipt∈s.received,receipt.nonce=receipt.expected) ?_
   ⟨Session.aligned_new expected,nofun⟩ hok hrun
  rintro s event next ⟨hali,hrec⟩ ⟨hdefinite,hsends⟩ hstep
  obtain ⟨hnext,more,hmore,hrig⟩:=hali.step hdefinite hsends hstep
  grind
 exact hinv.2

end

def perpOrder:Command where
 product:=.perp
 op:=.place
 instrument:={identity:={venue:=.lighter,product:=.perp,nativeSymbol:="BTC",nativeId:="1" }}
 clientOrderId:="7"
 orderType:=.limit

def refusedThenAccepted:List Event:=
 [.enter perpOrder none,.number (.error {status:=429,err:=.leaf (.lighterStatus 429)}),
  .enter perpOrder none,.number (.ok {code:=200,nonce:=some 10}),
  .finish (.refused 400 (.leaf (.lighterStatus 400))) false,
  .enter perpOrder none,.number (.ok {code:=200,nonce:=some 10}),.finish (.answered 200 "0xab") true,
  .enter perpOrder none,.number (.ok {code:=200,nonce:=none}),.finish (.answered 200 "0xcd") true]

theorem sent_with_expected_nonce_refused :
 ∃ s,run step {expected:=10} refusedThenAccepted=some s∧
  s.received=[⟨10,10⟩,⟨10,10⟩,⟨11,11⟩]∧∀ receipt∈s.received,receipt.nonce=receipt.expected:=by
 have hrun:run step {expected:=10} refusedThenAccepted=some _:=rfl
 exact ⟨_,hrun,rfl,sent_with_expected_nonce (by decide) (by decide) hrun⟩

def heldBack:List Event:=
 [.enter perpOrder none,.number (.ok {code:=200,nonce:=some 10}),
  .finish (.unsent (.leaf (.localRateLimit {action:="place" }))) false,
  .enter perpOrder none,.number (.ok {code:=200,nonce:=some 10}),
  .finish (.refused 400 (.leaf (.lighterStatus 400))) false]

theorem held_back_leaves_hole :
 (∀ event∈heldBack,event.Definite)∧
  ∃ s,run step {expected:=10} heldBack=some s∧s.received=[{nonce:=11,expected:=10}]:=
 ⟨by decide,_,rfl,rfl⟩

end BolterTrader.Adapters.Lighter
