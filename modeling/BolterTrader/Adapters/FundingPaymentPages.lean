import BolterTrader.Adapters.BybitFunding
import BolterTrader.Adapters.GateAccount
import BolterTrader.Foundations.Paging

/-! The funding payments of the Gate and the Lighter perpetual clients (`gate_rest.go`,
`lighter_rest.go`, `factoryclient/clients.go`). -/
namespace BolterTrader.Adapters.FundingPaymentPages
open Foundations Foundations.Fallible Foundations.Paging Exchange FundingPaymentCursor List
open BybitFunding (zeroTime withinHalfOpen)

/-! ## Pages -/

structure Payment where
 paymentId:String
 nativeSymbol:String
 nativeId:String
 settlementAsset:String
 amount:Decimal
 effectiveAt:Int
 version:String
 sourceRef:String
 deriving DecidableEq

inductive FundingPaymentStatus where
 | incomplete | completeEmpty | complete
 deriving DecidableEq

def FundingPaymentStatus.isComplete (status:FundingPaymentStatus):Bool:=status≠.incomplete

def fundingPaymentCompletionStatus (items:Int64) (hasMore:Bool) (start finish:Int) (retained:Bool) (observedAt:Int):
 FundingPaymentStatus:=
 if hasMore∨start=zeroTime∨finish=zeroTime∨observedAt=zeroTime∨observedAt<finish then .incomplete
 else if ¬retained then .incomplete
 else if items=0 then .completeEmpty
 else .complete

structure FundingPaymentWatermark where
 cursor:String
 revision:ℕ:=1
 observedAt:Int
 verified:Bool
 effectiveThrough:Int:=zeroTime
 completeThrough:Int:=zeroTime

def fundingPaymentWatermark (cursor:String) (finish:Int) (status:FundingPaymentStatus) (observedAt:Int):
 FundingPaymentWatermark:=
 let verified:=status.isComplete && decide (observedAt≠zeroTime∧finish≤observedAt)
 let through:=if verified then finish else zeroTime
 {cursor,observedAt,verified,effectiveThrough:=through,completeThrough:=through}

def fundingPaymentCompleteThrough (finish:Int) (status:FundingPaymentStatus):Int:=
 if status.isComplete then finish else zeroTime

structure Page where
 items:List Payment
 cursor:String
 limit:Int64
 windowStart:Int
 windowEnd:Int
 hasMore:Bool
 status:FundingPaymentStatus
 watermark:FundingPaymentWatermark
 completeThrough:Int
 revision:ℕ:=1

inductive Refusal where
 | message (text:String)
 | cursor (failure:Failure)
 deriving DecidableEq

def boundedLimit (r:Request) (most:Int64) (message:String):Except Refusal Int64:=do
 refuse (r.limit<0) (.message "limit must be non-negative")
 refuse (r.start≠zeroTime∧r.finish≠zeroTime∧¬r.start<r.finish) (.message "start must be before end")
 let limit:=if r.limit≤0 then 100 else r.limit
 refuse (most<limit) (.message message)
 return limit

def inWindow (r:Request) (p:Payment):Bool:=withinHalfOpen p.effectiveAt r.start r.finish

def collect {ρ:Type} (read:ρ→Except Refusal (Option Payment)) (r:Request):List ρ→Except Refusal (List Payment)
 | []=>.ok []
 | row::rest=>do
  let payment ← read row
  refuse (payment.any fun p=>r.settlementAsset≠""∧p.settlementAsset≠r.settlementAsset)
   (.message "response settlement asset does not match request")
  let later ← collect read r rest
  return (payment.filter (inWindow r)).toList++later

/-- What a page reads at an offset and a cursor of the venue, and where the next one starts. -/
abbrev Serve:=Int64×String→Except Refusal (List Payment×Option (Int64×String))

section
variable (hashes:Hashes) (key:List UInt8) (scope:Envelope) (r:Request) (limit:Int64) (retained:Bool)

def pageOf (serve:Serve) (now:String→Int)
  (cursor:String):Except Refusal Page:=do
 let envelope ← (decode hashes cursor key scope).mapError .cursor
 let (items,next) ← serve (envelope.itemsSeen,envelope.venueCursor)
 let hasMore:=next.isSome
 let nextCursor:=(next.map fun (itemsSeen,venueCursor)=>encode hashes key {scope with itemsSeen,venueCursor}).getD ""
 let observedAt:=now cursor
 let status:=fundingPaymentCompletionStatus (envelope.itemsSeen+Int64.ofNat items.length) hasMore r.start r.finish
  retained observedAt
 return {
  items,limit,hasMore,status
  cursor:=nextCursor
  windowStart:=r.start
  windowEnd:=r.finish
  watermark:=fundingPaymentWatermark nextCursor r.finish status observedAt
  completeThrough:=fundingPaymentCompleteThrough r.finish status}

end

/-! ## Gate -/

def second:Int:=1000000000

structure GateRow where
 time:String
 change:String
 type:String:="fund"
 contract:String
 id:String

structure GateQuery where
 contract:Option String
 start:Option Int
 finish:Option Int
 limit:Int64
 offset:Int64

abbrev GateVenue:=GateQuery→Except Refusal (List GateRow)

def gateFundingPayment (instrument:Option Instrument) (row:GateRow):Except Refusal Payment:=do
 refuse (GoText.trimSpace row.id="") (.message "gate funding payment id is missing")
 refuse (GoText.trimSpace row.contract="") (.message "gate funding payment contract is missing")
 let amount ← required (.message "invalid gate funding payment amount") (Decimal.ofString? row.change)
 let effectiveAt ← required (.message "invalid gate funding payment timestamp") (Gate.gateUnixSecondDecimalString row.time)
 return {
  paymentId:=row.id
  nativeSymbol:=row.contract
  nativeId:=((instrument.map (·.identity.nativeId)).filter (· ≠ "")).getD row.contract
  settlementAsset:="USDT"
  amount,effectiveAt
  version:="gate-futures-account-book-v1"
  sourceRef:="gate:futures:account_book:fund:" ++ row.id}

def gateRead (r:Request) (row:GateRow):Except Refusal (Option Payment):=do
 refuse (row.type≠"fund") (.message "response account book type does not match request")
 refuse (r.instrument.any fun i=>row.contract≠i.identity.nativeSymbol)
  (.message "response instrument does not match request")
 some <$> gateFundingPayment r.instrument row

def unixSecond (instant:Int):Option Int:=if instant=zeroTime then none else some (instant/second)

def gateQuery (r:Request) (limit offset:Int64):GateQuery where
 contract:=r.instrument.map (·.identity.nativeSymbol)
 start:=unixSecond r.start
 finish:=unixSecond r.finish
 limit:=limit
 offset:=offset

def gateServe (venue:GateVenue) (r:Request) (limit:Int64) (s:Int64×String):
  Except Refusal (List Payment×Option (Int64×String)):=do
 let rows ← venue (gateQuery r limit s.1)
 let items ← collect (gateRead r) r rows
 return (items,if limit.toInt≤rows.length then some (s.1+Int64.ofNat rows.length,"") else none)

def gateFundingPayments (hashes:Hashes) (key:List UInt8) (venue:GateVenue)
  (now:String→Int) (r:Request) (cursor:String):Except Refusal Page:=do
 refuse (r.settlementAsset≠""∧r.settlementAsset≠"USDT") (.message "gate funding payments support only USDT settlement")
 let limit ← boundedLimit r 1000 "limit must be between 1 and 1000"
 let scope:={r with settlementAsset:="USDT",limit}.scope hashes
 pageOf hashes key scope r limit false (gateServe venue r limit) now cursor

/-! ## Lighter -/

structure LighterRow where
 timestamp:Int64
 marketId:Int
 fundingId:Int64
 change:String

structure LighterQuery where
 cursor:String
 limit:Int64
 marketId:Option Int
 start:Option Int
 finish:Option Int

abbrev LighterVenue:=LighterQuery→Except Refusal (List LighterRow×String)

def lighterFundingPayment (row:LighterRow) (market:Instrument):Except Refusal Payment:=do
 let amount ← required (.message "invalid decimal value") (Decimal.ofString? row.change)
 let paymentId:=GoText.itoa row.fundingId.toInt
 return {
  paymentId
  nativeSymbol:=market.identity.nativeSymbol
  nativeId:=market.identity.nativeId
  settlementAsset:=market.identity.settleAsset
  amount
  effectiveAt:=row.timestamp.toInt*second
  version:="lighter-position-funding-v1"
  sourceRef:="lighter:positionFunding:" ++ paymentId}

def lighterRead (markets:Int→Option Instrument) (requested:Option Int) (row:LighterRow):
  Except Refusal (Option Payment):=do
 let market ← required (.message "unknown position funding market") (markets row.marketId)
 if requested.any (row.marketId ≠ ·) then return none
 else some <$> lighterFundingPayment row market

def lighterQuery (requested:Option Int) (r:Request) (limit:Int64):LighterQuery where
 cursor:=""
 limit:=limit
 marketId:=requested
 start:=(unixSecond r.start).filter (0 < ·)
 finish:=(unixSecond r.finish).filter (0 < ·)

def lighterServe (venue:LighterVenue) (markets:Int→Option Instrument)
  (requested:Option Int) (r:Request) (limit:Int64) (s:Int64×String):
  Except Refusal (List Payment×Option (Int64×String)):=do
 let (rows,nextCursor) ← venue {lighterQuery requested r limit with cursor:=s.2}
 let items ← collect (lighterRead markets requested) r rows
 return (items,if nextCursor≠"" then some (s.1+Int64.ofNat items.length,nextCursor) else none)

def lighterFundingPayments (hashes:Hashes) (key:List UInt8)
  (venue:LighterVenue) (markets:Int→Option Instrument)
  (requested:Option Int) (now:String→Int) (r:Request) (cursor:String):Except Refusal Page:=do
 let limit ← boundedLimit r 100 "limit must be between 1 and 100"
 let scope:={r with limit}.scope hashes
 pageOf hashes key scope r limit true (lighterServe venue markets requested r limit) now cursor

/-! ## Following the cursors -/

def turn (call:String→Except Refusal Page) (cursor:String):Except Refusal (List Page×Option String):=
 (call cursor).map fun page=>([page],if page.cursor="" then none else some page.cursor)

def Page.Open (page:Page):Prop:=
 page.status=.incomplete∧page.completeThrough=zeroTime∧page.watermark.completeThrough=zeroTime

inductive Chain (serve:Serve):
  Int64×String→List Payment→Prop
 | last {s:Int64×String} {items:List Payment} (h:serve s=.ok (items,none)):Chain serve s items
 | more {s next:Int64×String} {items rest:List Payment}
  (h:serve s=.ok (items,some next)) (hrest:Chain serve next rest):Chain serve s (items++rest)

/-- The calls that follow the cursors end, and their pages hold `total`. -/
structure Traversed (call:String→Except Refusal Page) (cursor:String) (total:List Payment) (pages:List Page) (last:Page):
  Prop where
 ends:∃ n,follow (turn call) n cursor=.ok (some (pages++[last]))
 items:(pages++[last]).flatMap Page.items=total
 before:∀ page∈pages,page.cursor≠""∧page.Open
 after:last.cursor=""

section
variable {hashes:Hashes} {key:List UInt8} {scope e:Envelope} (r:Request) (limit:Int64) (retained:Bool)
 {serve:Serve} (now:String→Int) {cursor:String}
 {s:Int64×String} {items:List Payment}

theorem pageOf_last (hdec:decode hashes cursor key scope=.ok e)
 (hser:serve (e.itemsSeen,e.venueCursor)=.ok (items,none)):
 ∃ page,pageOf hashes key scope r limit retained serve now cursor=.ok page∧page.items=items∧page.cursor=""∧
  (page.status=.completeEmpty→ e.itemsSeen+Int64.ofNat items.length=0):=by
 simp only[pageOf,hdec,Except.mapError,bind,Except.bind,hser]
 refine ⟨_,rfl,rfl,rfl,fun hnil=>?_⟩
 grind [fundingPaymentCompletionStatus]

theorem pageOf_more {next:Int64×String} (hdec:decode hashes cursor key scope=.ok e)
 (hser:serve (e.itemsSeen,e.venueCursor)=.ok (items,some next)):
 ∃ page,pageOf hashes key scope r limit retained serve now cursor=.ok page∧page.items=items∧
  page.cursor=encode hashes key {scope with itemsSeen:=next.1,venueCursor:=next.2}∧page.Open:=by
 simp only[pageOf,hdec,Except.mapError,bind,Except.bind,hser]
 exact ⟨_,rfl,rfl,rfl,rfl,rfl,rfl⟩

theorem traversed_of_chain {total:List Payment} (hcha:Chain serve s total)
 (hdec:decode hashes cursor key scope=.ok e) (hs:(e.itemsSeen,e.venueCursor)=s):
 ∃ pages last,Traversed (pageOf hashes key scope r limit retained serve now) cursor total pages last∧
  ((∀ s items next,serve s=.ok (items,some next)→ next.1=s.1+Int64.ofNat items.length) →
   last.status=.completeEmpty→ s.1+Int64.ofNat total.length=0):=by
 induction hcha generalizing cursor e with
 | @last s items hser=>
  subst hs
  obtain ⟨page,hpage,hit,hcur,hnil⟩:=pageOf_last r limit retained now hdec hser
  have hturn:turn (pageOf hashes key scope r limit retained serve now) cursor=.ok ([page],none):=by
   simp[turn,hpage,hcur,Except.map]
  exact ⟨[],page,⟨⟨1,follow_last hturn 0⟩,by simp[hit],forall_mem_nil _,hcur⟩,fun _=>hnil⟩
 | @more s next items rest hser hrest ih=>
  subst hs
  obtain ⟨page,hpage,hit,hcur,hopen⟩:=pageOf_more r limit retained now hdec hser
  obtain ⟨pages,last,htra,hct⟩:=ih (decode_encode {scope with itemsSeen:=next.1,venueCursor:=next.2} rfl) rfl
  rw[←hcur] at htra
  obtain ⟨n,hn⟩:=htra.ends
  have hne:page.cursor≠"" := hcur▸cursorOf_ne_empty _
  have hturn:turn (pageOf hashes key scope r limit retained serve now) cursor=.ok ([page],some page.cursor):=by
   simp[turn,hpage,hne,Except.map]
  refine ⟨page::pages,last,⟨⟨n+1,?_⟩,?_,?_,htra.after⟩,fun hcou hlast=>?_⟩
  · rw[follow_more hturn,hn]
    rfl
  · rw[cons_append,flatMap_cons,hit,htra.items]
  · exact forall_mem_cons.mpr ⟨⟨hne,hopen⟩,htra.before⟩
  all_goals grind [length_append,Int64.ofNat_add,Int64.add_assoc]

end

/-! ## Stable venues -/

def GateQuery.selects (q:GateQuery) (p:Payment):Bool:=
 q.contract.all (p.nativeSymbol = ·) && q.start.all (· ≤ p.effectiveAt/second) && q.finish.all (p.effectiveAt/second ≤ ·)

/-- A Gate account book that does not change while it is read. -/
structure GateBook (venue:GateVenue) (instrument:Option Instrument) (account:List GateRow)
  (payment:GateRow→Payment):Prop where
 reads:∀ row∈account,row.type="fund"∧gateFundingPayment instrument row=.ok (payment row)
 answers:∀ q,venue q =
  .ok (((account.filter fun row=>q.selects (payment row)).drop q.offset.toInt.toNat).take q.limit.toInt.toNat)
 size:account.length<2^63

def LighterQuery.selects (q:LighterQuery) (row:LighterRow):Bool:=
 q.marketId.all (row.marketId = ·) && q.start.all (· ≤ row.timestamp.toInt) && q.finish.all (row.timestamp.toInt ≤ ·)

inductive Cursors (venue:LighterVenue) (q:LighterQuery):
  String→List (List LighterRow)→Prop
 | last {cursor:String} {rows:List LighterRow} (h:venue {q with cursor}=.ok (rows,"")):
  Cursors venue q cursor [rows]
 | more {cursor next:String} {rows:List LighterRow} {rest:List (List LighterRow)}
  (h:venue {q with cursor}=.ok (rows,next)) (hnext:next≠"") (hrest:Cursors venue q next rest):
  Cursors venue q cursor (rows::rest)

/-- Cursor pages of Lighter that do not change while they are read. -/
structure LighterBook (venue:LighterVenue) (markets:Int→Option Instrument)
  (settlementAsset:String) (account:List LighterRow) (payment:LighterRow→Payment):Prop where
 reads:∀ row∈account,∃ market,markets row.marketId=some market∧lighterFundingPayment row market=.ok (payment row)∧
  (settlementAsset=""∨(payment row).settlementAsset=settlementAsset)
 answers:∀ q,∃ pages,Cursors venue q "" pages∧pages.flatten=account.filter q.selects
 size:account.length<2^63

section
variable {r:Request} {limit:Int64}

theorem collect_eq {ρ:Type} {read:ρ→Except Refusal (Option Payment)} {payment:ρ→Payment} {rows:List ρ}
 (hread:∀ row∈rows,read row=.ok (some (payment row)))
 (hass:∀ row∈rows,r.settlementAsset=""∨(payment row).settlementAsset=r.settlementAsset):
 collect read r rows=.ok ((rows.map payment).filter (inWindow r)):=by
 induction rows with
 | nil=>rfl
 | cons row rest ih=>
  obtain ⟨hrow,hrest⟩:=forall_mem_cons.mp hread
  obtain ⟨hown,hos⟩:=forall_mem_cons.mp hass
  have hkept:¬(some (payment row)).any (fun p=>r.settlementAsset≠""∧p.settlementAsset≠r.settlementAsset)=true:=by
   grind
  simp only[collect,hrow,bind,Except.bind,ih hrest hos,refuse,if_neg hkept,map_cons,filter_cons]
  cases hin : inWindow r (payment row)<;>simp[hin,Option.filter]<;>rfl

theorem gate_chain {venue:GateVenue} {chosen:List GateRow} {payment:GateRow→Payment}
 (hread:∀ row∈chosen,gateRead r row=.ok (some (payment row)))
 (hass:∀ row∈chosen,r.settlementAsset=""∨(payment row).settlementAsset=r.settlementAsset)
 (hsize:chosen.length<2^63) (hlimit:0<limit.toInt)
 (hven:∀ offset,venue (gateQuery r limit offset)=.ok ((chosen.drop offset.toInt.toNat).take limit.toInt.toNat)) {k:ℕ} (hk:k≤chosen.length):
 Chain (gateServe venue r limit) (Int64.ofNat k,"")
  (((chosen.drop k).map payment).filter (inWindow r)):=by
 induction hleft : chosen.length-k using Nat.strongRecOn generalizing k with
 | ind left ih=>
  have hoff:(Int64.ofNat k).toInt.toNat=k:=by
   rw[Int64.toInt_ofNat_of_lt (by omega)]
   rfl
  have hmem:∀ row∈(chosen.drop k).take limit.toInt.toNat,row∈chosen:=fun row hrow=>
   mem_of_mem_drop (mem_of_mem_take hrow)
  have hser:gateServe venue r limit (Int64.ofNat k,"")=.ok
    ((((chosen.drop k).take limit.toInt.toNat).map payment).filter (inWindow r),
     if limit.toInt≤((chosen.drop k).take limit.toInt.toNat).length then
      some (Int64.ofNat (k+((chosen.drop k).take limit.toInt.toNat).length),"") else none):=by
   simp only[gateServe,hven,hoff,bind,Except.bind,Int64.ofNat_add]
   rw[collect_eq (fun row hrow=>hread row (hmem row hrow)) fun row hrow=>hass row (hmem row hrow)]
   rfl
  by_cases hfull:limit.toInt≤((chosen.drop k).take limit.toInt.toNat).length
  · rw[if_pos hfull] at hser
    rw[length_take,length_drop] at hfull hser
    have hcha:=Chain.more hser (@ih _ (by omega) (k+min limit.toInt.toNat (chosen.length-k)) (by omega) rfl)
    grind [drop_drop,take_append_drop]
  · rw[if_neg hfull] at hser
    rw[length_take,length_drop] at hfull
    rw[take_of_length_le (by rw[length_drop]; omega)] at hser
    exact .last hser

section
variable {venue:LighterVenue} {markets:Int→Option Instrument}
 {requested:Option Int} {payment:LighterRow→Payment} {cursor:String}

theorem lighterServe_eq {rows:List LighterRow} {next:String}
 (h:venue {lighterQuery requested r limit with cursor}=.ok (rows,next))
 (hread:∀ row∈rows,lighterRead markets requested row=.ok (some (payment row)))
 (hass:∀ row∈rows,r.settlementAsset=""∨(payment row).settlementAsset=r.settlementAsset) (seen:Int64):
 let items:=(rows.map payment).filter (inWindow r)
 lighterServe venue markets requested r limit (seen,cursor) =
  .ok (items,if next≠"" then some (seen+Int64.ofNat items.length,next) else none):=by
 simp only[lighterServe,h,bind,Except.bind]
 rw[collect_eq hread hass]
 rfl

theorem lighter_chain {pages:List (List LighterRow)} (hpag:Cursors venue (lighterQuery requested r limit) cursor pages)
 (hread:∀ row∈pages.flatten,lighterRead markets requested row=.ok (some (payment row)))
 (hass:∀ row∈pages.flatten,r.settlementAsset=""∨(payment row).settlementAsset=r.settlementAsset) (seen:Int64):
 Chain (lighterServe venue markets requested r limit) (seen,cursor)
  ((pages.flatten.map payment).filter (inWindow r)):=by
 induction hpag generalizing seen with
 | last h=>
  rw[flatten_singleton] at hread hass ⊢
  exact .last (lighterServe_eq h hread hass seen)
 | more h hnext hrest ih=>
  rw[flatten_cons,forall_mem_append] at hread hass
  have hfst:=lighterServe_eq h hread.1 hass.1 seen
  dsimp only at hfst
  rw[if_pos hnext] at hfst
  rw[flatten_cons,map_append,filter_append]
  exact .more hfst (ih hread.2 hass.2 _)

end

theorem boundedLimit_eq {most:Int64} (message:String) (hlimit:0≤r.limit) (hmost:r.limit≤ most) (hdef:100≤ most)
 (hwin:r.start=zeroTime∨r.finish=zeroTime∨r.start<r.finish):
 ∃ limit,boundedLimit r most message=.ok limit∧0<limit.toInt:=by
 have hpos:0< if r.limit≤0 then 100 else r.limit:=by
  grind
 have hle:¬most< if r.limit≤0 then 100 else r.limit:=by
  grind
 refine ⟨_,?_,Int64.lt_iff_toInt_lt.mp hpos⟩
 unfold boundedLimit
 rw[refuse_bind (Int64.not_lt.mpr hlimit),refuse_bind (by omega)]
 exact refuse_bind hle _

theorem seconds_of_within {t start finish:Int} (h:withinHalfOpen t start finish=true):
 (unixSecond start).all (· ≤ t/second)=true∧(unixSecond finish).all (t/second ≤ ·)=true:=by
 simp only[withinHalfOpen,Bool.and_eq_true,Bool.or_eq_true,decide_eq_true_eq] at h
 grind [unixSecond,second,decide_eq_true]

theorem gateFundingPayment_eq {instrument:Option Instrument} {row:GateRow} {p:Payment}
  (h:gateFundingPayment instrument row=.ok p):p.nativeSymbol=row.contract∧p.settlementAsset="USDT" := by
 obtain ⟨amount,-,h⟩:=bind_eq_ok (past (past h))
 obtain ⟨effectiveAt,-,h⟩:=bind_eq_ok h
 cases h
 exact ⟨rfl,rfl⟩

theorem lighterFundingPayment_eq {market:Instrument} {row:LighterRow} {p:Payment}
 (h:lighterFundingPayment row market=.ok p):p.effectiveAt=row.timestamp.toInt*second:=by
 obtain ⟨amount,-,h⟩:=bind_eq_ok h
 cases h
 rfl

theorem decode_start (hashes:Hashes) (key:List UInt8) (r:Request):
 decode hashes "" key (r.scope hashes)=.ok {r.scope hashes with traversalStarted:=true}:=
 if_pos rfl

theorem all_filter {o:Option Int} {q:Int→Bool} (p:Int→Bool) (h:o.all q=true):(o.filter p).all q=true:=by
 cases o with
 | none=>rfl
 | some t=>cases hp : p t<;>simp_all[Option.filter]

theorem lighterServe_counts {venue:LighterVenue} {markets:Int→Option Instrument}
 {requested:Option Int} {s next:Int64×String} {items:List Payment}
 (h:lighterServe venue markets requested r limit s=.ok (items,some next)):next.1=s.1+Int64.ofNat items.length:=by
 obtain ⟨⟨rows,cursor⟩,-,h⟩:=bind_eq_ok h
 obtain ⟨found,-,h⟩:=bind_eq_ok h
 injection h with h
 grind

theorem count_eq_zero {n:Nat} (hn:n<2^63) (h:0+Int64.ofNat n=0):n=0:=by
 have hint:=congrArg Int64.toInt h
 rw[Int64.zero_add,Int64.toInt_ofNat_of_lt hn] at hint
 exact Int.ofNat_eq_zero.mp hint

theorem gate_traversed (hashes:Hashes) (key:List UInt8) (now:String→Int) {venue:GateVenue}
 {account:List GateRow} {payment:GateRow→Payment} (hbook:GateBook venue r.instrument account payment)
 (hass:r.settlementAsset=""∨r.settlementAsset="USDT")
 (hbou:boundedLimit r 1000 "limit must be between 1 and 1000" = .ok limit) (hpos:0<limit.toInt):
 ∃ pages last,Traversed (gateFundingPayments hashes key venue now r) ""
  ((account.map payment).filter fun p=>r.instrument.all (p.nativeSymbol = ·.identity.nativeSymbol) && inWindow r p) pages last:=by
 have hcall:gateFundingPayments hashes key venue now r =
   pageOf hashes key ({r with settlementAsset:="USDT",limit}.scope hashes) r limit false (gateServe venue r limit) now:=by
  funext cursor
  unfold gateFundingPayments
  rw[refuse_bind (by tauto),hbou]
  rfl
 let chosen:=account.filter fun row=>(gateQuery r limit 0).selects (payment row)
 have hread:∀ row∈chosen,gateRead r row=.ok (some (payment row)):=by
  intro row hrow
  obtain ⟨hrow,hsel⟩:=mem_filter.mp hrow
  obtain ⟨htype,hread⟩:=hbook.reads row hrow
  have hcon:¬(r.instrument.any fun i=>row.contract≠i.identity.nativeSymbol)=true:=by
   rw[←(gateFundingPayment_eq hread).1]
   simp only[GateQuery.selects,gateQuery,Option.all_map,Bool.and_eq_true] at hsel
   cases hins : r.instrument<;>simp_all
  unfold gateRead
  rw[refuse_bind (by simpa using htype),refuse_bind hcon,hread]
  rfl
 have hass':∀ row∈chosen,r.settlementAsset=""∨(payment row).settlementAsset=r.settlementAsset:=by
  intro row hrow
  rw[(gateFundingPayment_eq (hbook.reads row (mem_filter.mp hrow).1).2).2]
  exact hass.imp_right Eq.symm
 have hsize:chosen.length<2^63:=(length_filter_le _ _).trans_lt hbook.size
 have hcha:=gate_chain hread hass' hsize hpos (fun offset=>hbook.answers _) (Nat.zero_le _)
 obtain ⟨pages,last,htra,-⟩:=traversed_of_chain r limit false now hcha (decode_start hashes key _) rfl
 refine ⟨pages,last,?_⟩
 have hall:((chosen.drop 0).map payment).filter (inWindow r) =
   (account.map payment).filter fun p=>r.instrument.all (p.nativeSymbol = ·.identity.nativeSymbol) && inWindow r p:=by
  have hmap:chosen.map payment=(account.map payment).filter (gateQuery r limit 0).selects:=by
   rw[List.filter_map]
   rfl
  rw[drop_zero,hmap,filter_filter]
  apply filter_congr
  intro p _
  cases hin : inWindow r p with
  | false=>simp
  | true=>
   obtain ⟨hstrt,hfin⟩:=seconds_of_within hin
   simp[GateQuery.selects,gateQuery,Option.all_map,hstrt,hfin]
 rw[hcall,←hall]
 exact htra

theorem lighter_traversed (hashes:Hashes) (key:List UInt8) (now:String→Int)
  {venue:LighterVenue} {markets:Int→Option Instrument} (requested:Option Int)
  {account:List LighterRow} {payment:LighterRow→Payment} (hbook:LighterBook venue markets r.settlementAsset account payment)
  (hbou:boundedLimit r 100 "limit must be between 1 and 100" = .ok limit):
  ∃ pages last,Traversed (lighterFundingPayments hashes key venue markets requested now r) ""
   (((account.filter fun row=>requested.all (row.marketId = ·)).map payment).filter (inWindow r)) pages last∧
   (last.status=.completeEmpty→(pages++[last]).flatMap Page.items=[]):=by
 have hcall:lighterFundingPayments hashes key venue markets requested now r =
   pageOf hashes key ({r with limit}.scope hashes) r limit true (lighterServe venue markets requested r limit) now:=by
  funext cursor
  unfold lighterFundingPayments
  rw[hbou]
  rfl
 obtain ⟨chosen,hpag,hcho⟩:=hbook.answers (lighterQuery requested r limit)
 have hread:∀ row∈chosen.flatten,lighterRead markets requested row=.ok (some (payment row)):=by
  intro row hrow
  rw[hcho] at hrow
  obtain ⟨hrow,hsel⟩:=mem_filter.mp hrow
  obtain ⟨market,hmk,hread,-⟩:=hbook.reads row hrow
  have hown:¬requested.any (row.marketId ≠ ·)=true:=by
   simp only[LighterQuery.selects,lighterQuery,Bool.and_eq_true] at hsel
   cases hreq : requested<;>simp_all
  simp only[lighterRead,hmk,required,bind,Except.bind]
  rw[if_neg hown,hread]
  rfl
 have hass:∀ row∈chosen.flatten,r.settlementAsset=""∨(payment row).settlementAsset=r.settlementAsset:=by
  intro row hrow
  rw[hcho] at hrow
  obtain ⟨_,-,-,hass⟩:=hbook.reads row (mem_filter.mp hrow).1
  exact hass
 have hcha:=lighter_chain hpag hread hass 0
 have hall:(chosen.flatten.map payment).filter (inWindow r) =
   ((account.filter fun row=>requested.all (row.marketId = ·)).map payment).filter (inWindow r):=by
  rw[hcho,filter_map,filter_map,filter_filter,filter_filter]
  congr 1
  apply filter_congr
  intro row hrow
  cases hin : inWindow r (payment row) with
  | false=>simp[hin]
  | true=>
   obtain ⟨market,-,hread,-⟩:=hbook.reads row hrow
   obtain ⟨hstrt,hfin⟩:=seconds_of_within hin
   rw[lighterFundingPayment_eq hread,Int.mul_ediv_cancel _ (by decide)] at hstrt hfin
   grind [all_filter,LighterQuery.selects,lighterQuery]
 rw[hall] at hcha
 obtain ⟨pages,last,htra,hct⟩:=traversed_of_chain r limit true now hcha (decode_start hashes key _) rfl
 rw[hcall]
 refine ⟨pages,last,htra,fun hnil=>?_⟩
 have hzero:=hct (fun _ _ _=>lighterServe_counts) hnil
 rw[htra.items,←length_eq_zero_iff]
 refine count_eq_zero (lt_of_le_of_lt ?_ hbook.size) hzero
 grind

/-- Following the cursors gives every payment of the window once, in order. -/
theorem funding_payments_traversed (hashes:Hashes) (key:List UInt8) (now:String→Int) (hlimit:0≤r.limit)
  (hwindow:r.start=zeroTime∨r.finish=zeroTime∨r.start<r.finish):
  (∀ venue account payment,GateBook venue r.instrument account payment→ r.limit≤1000 →
   (r.settlementAsset=""∨r.settlementAsset="USDT") →
   ∃ pages last,Traversed (gateFundingPayments hashes key venue now r) ""
    ((account.map payment).filter fun p=>r.instrument.all (p.nativeSymbol = ·.identity.nativeSymbol) && inWindow r p) pages last)∧
  ∀ venue markets requested account payment,LighterBook venue markets r.settlementAsset account payment→ r.limit≤100 →
   ∃ pages last,Traversed (lighterFundingPayments hashes key venue markets requested now r) ""
    (((account.filter fun row=>requested.all (row.marketId = ·)).map payment).filter (inWindow r)) pages last∧
    (last.status=.completeEmpty→(pages++[last]).flatMap Page.items=[]):=by
 constructor
 · intro venue account payment hbook hmost hass
   obtain ⟨limit,hbou,hpos⟩:=boundedLimit_eq "limit must be between 1 and 1000" hlimit hmost (by decide) hwindow
   exact gate_traversed hashes key now hbook hass hbou hpos
 · intro venue markets requested account payment hbook hmost
   obtain ⟨limit,hbou,-⟩:=boundedLimit_eq "limit must be between 1 and 100" hlimit hmost (by decide) hwindow
   exact lighter_traversed hashes key now requested hbook hbou

end

namespace Scenario

def july:Request where
 instrument:=none
 settlementAsset:="USDT"
 start:=1751328000*second
 finish:=1754006400*second
 limit:=1

def july1:GateRow:={time:="1751356800",change:="-0.25",contract:="BTC_USDT",id:="1" }
def july2:GateRow:={july1 with time:="1751443200",id:="2" }

def paid (row:GateRow):Payment:=
 match gateFundingPayment none row with
 | .ok payment=>payment
 | .error _=>⟨"","","","",.ofInt 0,0,"",""⟩

def book (q:GateQuery):Except Refusal (List GateRow):=
 .ok ((([july1,july2].filter fun row=>q.selects (paid row)).drop q.offset.toInt.toNat).take q.limit.toInt.toNat)

theorem book_stable:GateBook book july.instrument [july1,july2] paid where
 reads:=by decide +kernel
 answers q:=rfl
 size:=by decide

def ether : Instrument := {identity := {nativeSymbol := "ETH", nativeId := "0", settleAsset := "USDC" }}

def lighterJuly1 : LighterRow := ⟨1751356800, 0, 1, "-0.25"⟩
def lighterJuly2 : LighterRow := {lighterJuly1 with timestamp := 1751443200, fundingId := 2}

def settled (row : LighterRow) : Payment :=
  match lighterFundingPayment row ether with
  | .ok payment => payment
  | .error _ => ⟨"", "", "", "", .ofInt 0, 0, "", ""⟩

def lighterJuly : Request := {july with settlementAsset := "USDC" }

def markets (id : Int) : Option Instrument := if id = 0 then some ether else none

/-- A page of one payment, and a cursor to the page with the other. -/
def pages (q : LighterQuery) : Except Refusal (List LighterRow × String) :=
  .ok (if q.cursor = "" then ([lighterJuly1].filter q.selects, "next") else ([lighterJuly2].filter q.selects, ""))

theorem pages_stable : LighterBook pages markets lighterJuly.settlementAsset [lighterJuly1, lighterJuly2] settled where
  reads := by
    intro row hrow
    obtain rfl | rfl := List.mem_pair.mp hrow <;> exact ⟨ether, rfl, by rfl, .inr (by rfl)⟩
  answers q := by
    refine ⟨[[lighterJuly1].filter q.selects, [lighterJuly2].filter q.selects], ?_, ?_⟩
    · exact .more rfl (by decide) (.last rfl)
    · simp [← List.filter_append]
  size := by decide
theorem july_traversed :
    (∃ read last, Traversed (gateFundingPayments FundingPaymentCursor.Scenario.plain [] book (fun _ => 0) july) ""
      [paid july1, paid july2] read last) ∧
    ∃ read last, Traversed (lighterFundingPayments FundingPaymentCursor.Scenario.plain [] pages markets none (fun _ => 0)
      lighterJuly) "" [settled lighterJuly1, settled lighterJuly2] read last := by
  constructor
  · obtain ⟨read, last, h⟩ := (funding_payments_traversed FundingPaymentCursor.Scenario.plain [] (fun _ => 0) (by decide)
      (by decide)).1 book _ paid book_stable (by decide) (by decide)
    have hall : ([july1, july2].map paid).filter (fun p =>
        july.instrument.all (p.nativeSymbol = ·.identity.nativeSymbol) && inWindow july p) = [paid july1, paid july2] := by
      decide +kernel
    rw [hall] at h
    exact ⟨read, last, h⟩
  · obtain ⟨read, last, h, -⟩ := (@funding_payments_traversed lighterJuly FundingPaymentCursor.Scenario.plain [] (fun _ => 0)
      (by decide) (by decide)).2 pages markets none _ settled pages_stable (by decide)
    have hall : ([lighterJuly1, lighterJuly2].map settled).filter (inWindow lighterJuly) =
        [settled lighterJuly1, settled lighterJuly2] := by
      decide +kernel
    exact ⟨read, last, hall ▸ h⟩

theorem large_page_refused :
 gateFundingPayments FundingPaymentCursor.Scenario.plain [] book (fun _=>0) {july with limit:=1001} "" =
  .error (.message "limit must be between 1 and 1000"):=rfl

end Scenario

end BolterTrader.Adapters.FundingPaymentPages
